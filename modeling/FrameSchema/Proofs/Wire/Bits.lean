import FrameSchema.Octets
import Mathlib.Data.Nat.Bitwise

/-!
# Proofs/Wire/Bits — single bits of octets and of 16-bit words

Bits are asked for and set by masks `1 <<< i`; here a mask is what `Nat.testBit` says it is.
-/

namespace FrameSchema.Wire

/-- A power of two is a mask for one bit. -/
theorem and_two_pow_bne_zero (n i : Nat) : (n &&& 2 ^ i != 0) = n.testBit i := by
  rw [Nat.and_two_pow]
  cases n.testBit i with
  | false => simp
  | true => simp

/-! ## Octets -/

/-- The mask of a bit of an octet is a power of two. -/
theorem toNat_octetMask {i : Nat} (h : i < 8) :
    ((1 : UInt8) <<< UInt8.ofNat i).toNat = 2 ^ i := by
  have hi : i % 2 ^ 8 % 8 = i := by omega
  have hlt : 2 ^ i < 2 ^ 8 := Nat.pow_lt_pow_right (by decide) h
  rw [UInt8.toNat_shiftLeft, UInt8.toNat_ofNat', hi, UInt8.toNat_one, Nat.shiftLeft_eq,
    Nat.one_mul, Nat.mod_eq_of_lt hlt]

/-- A mask asks for a bit of an octet. -/
theorem octet_and_mask {octet : UInt8} {i : Nat} (h : i < 8) :
    (octet &&& (1 <<< UInt8.ofNat i) != 0) = octet.toNat.testBit i := by
  rw [← and_two_pow_bne_zero, ← toNat_octetMask h, ← UInt8.toNat_and, Bool.eq_iff_iff, bne_iff_ne,
    bne_iff_ne, Ne, Ne, ← UInt8.toNat_inj, UInt8.toNat_zero]

/-- A mask sets a bit of an octet and no other. -/
theorem testBit_octet_or_mask {octet : UInt8} {i j : Nat} (h : i < 8) :
    (octet ||| (1 <<< UInt8.ofNat i)).toNat.testBit j
      = (octet.toNat.testBit j || decide (i = j)) := by
  rw [UInt8.toNat_or, toNat_octetMask h, Nat.testBit_or, Nat.testBit_two_pow]

/-! ## Words -/

theorem toNat_wordMask {i : Nat} (h : i < 16) :
    ((1 : UInt16) <<< UInt16.ofNat i).toNat = 2 ^ i := by
  have hi : i % 2 ^ 16 % 16 = i := by omega
  have hlt : 2 ^ i < 2 ^ 16 := Nat.pow_lt_pow_right (by decide) h
  rw [UInt16.toNat_shiftLeft, UInt16.toNat_ofNat', hi, UInt16.toNat_one, Nat.shiftLeft_eq,
    Nat.one_mul, Nat.mod_eq_of_lt hlt]

/-- A mask asks for a bit of a word. -/
theorem word_and_mask {word : UInt16} {i : Nat} (h : i < 16) :
    (word &&& (1 <<< UInt16.ofNat i) != 0) = word.toNat.testBit i := by
  rw [← and_two_pow_bne_zero, ← toNat_wordMask h, ← UInt16.toNat_and, Bool.eq_iff_iff, bne_iff_ne,
    bne_iff_ne, Ne, Ne, ← UInt16.toNat_inj, UInt16.toNat_zero]

/-- A mask sets a bit of a word and no other. -/
theorem testBit_word_or_mask {word : UInt16} {i j : Nat} (h : i < 16) :
    (word ||| (1 <<< UInt16.ofNat i)).toNat.testBit j
      = (word.toNat.testBit j || decide (i = j)) := by
  rw [UInt16.toNat_or, toNat_wordMask h, Nat.testBit_or, Nat.testBit_two_pow]

end FrameSchema.Wire
