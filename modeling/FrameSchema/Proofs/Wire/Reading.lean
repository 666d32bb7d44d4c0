import FrameSchema.Wire.Reader
import Mathlib.Tactic.Ring

/-!
# Proofs/Wire/Reading — octets that an operation reads wherever they stand

`Reads read octets result` says that `read` takes exactly `octets` off the input and gives `result`,
at any position and whatever follows.  The relation is closed under sequencing (`Reads.bind`), so a
reader is shown to undo a writer part by part; here stand the parts that every frame is made of,
numbers and texts.
-/

namespace FrameSchema

namespace Octets

/-- Reading digits behind a number already read: the number moves up, the digits fill in. -/
theorem foldl_bigEndian : ∀ width a n : Nat,
    (bigEndian width n).foldl (fun m octet => m * 256 + octet.toNat) a
      = a * 256 ^ width + n % 256 ^ width
  | 0, a, n => by simp [bigEndian, Nat.mod_one]
  | width + 1, a, n => by
      have hdigit : (UInt8.ofNat (n >>> (8 * width))).toNat = n / 256 ^ width % 256 := by
        rw [UInt8.toNat_ofNat', Nat.shiftRight_eq_div_pow, Nat.pow_mul]
      rw [bigEndian, List.foldl_cons, foldl_bigEndian width, hdigit, Nat.mod_pow_succ (b := 256)]
      ring

/-- **Big-endian digits are read back**, if the width has room for the number. -/
theorem toNat_bigEndian {width n : Nat} (h : n < 256 ^ width) :
    toNat (bigEndian width n) = n := by
  rw [toNat, foldl_bigEndian, Nat.zero_mul, Nat.zero_add, Nat.mod_eq_of_lt h]

/-- One octet is its own digit. -/
@[simp] theorem bigEndian_one (v : UInt8) : bigEndian 1 v.toNat = [v] := by
  rw [bigEndian, bigEndian, Nat.mul_zero, Nat.shiftRight_zero, UInt8.ofNat_toNat]

end Octets

namespace Wire

instance decidableEqResult {ε σ α : Type} [DecidableEq ε] [DecidableEq σ] [DecidableEq α] :
    DecidableEq (EStateM.Result ε σ α)
  | .ok a s, .ok b t => decidable_of_iff (a = b ∧ s = t) (by rw [EStateM.Result.ok.injEq])
  | .error a s, .error b t => decidable_of_iff (a = b ∧ s = t) (by rw [EStateM.Result.error.injEq])
  | .ok _ _, .error _ _ => isFalse nofun
  | .error _ _, .ok _ _ => isFalse nofun

variable {α β : Type}

/-- The operation takes exactly these octets off an input and gives this result. -/
def Reads (read : Read α) (octets : Octets) (result : α) : Prop :=
  ∀ (position : Nat) (rest : Octets),
    read ⟨position, octets ++ rest⟩ = .ok result ⟨position + octets.length, rest⟩

/-! ## Sequencing -/

section Sequence

variable {ε σ : Type} {x : EStateM ε σ α} {f : α → EStateM ε σ β} {r r' : σ}

/-- A sequence that starts with a success goes on from where that stopped. -/
@[grind =>] theorem bind_of_ok {a : α} (h : x r = .ok a r') : (x >>= f) r = f a r' := by
  change EStateM.bind x f r = _
  rw [EStateM.bind, h]

/-- A sequence that starts with a failure fails in the same way. -/
@[grind =>] theorem bind_of_error {e : ε} (h : x r = .error e r') : (x >>= f) r = .error e r' := by
  change EStateM.bind x f r = _
  rw [EStateM.bind, h]

/-- A sequence that succeeds does so in its two parts. -/
theorem bind_eq_ok {b : β} (h : (x >>= f) r = .ok b r') :
    ∃ a r₁, x r = .ok a r₁ ∧ f a r₁ = .ok b r' := by
  cases hx : x r with
  | error cause r₁ =>
    rw [bind_of_error hx] at h
    cases h
  | ok a r₁ =>
    rw [bind_of_ok hx] at h
    exact ⟨a, r₁, rfl, h⟩

end Sequence

/-- A look at the cursor leaves it where it is. -/
@[grind =] theorem get_bind (f : Reader → Read α) (r : Reader) :
    ((get : Read Reader) >>= f) r = f r r := rfl

theorem Reads.pure (a : α) : Reads (Pure.pure a) [] a := fun _ _ => rfl

/-- Operations in sequence take their octets one after another. -/
theorem Reads.bind {x : Read α} {f : α → Read β} {s t : Octets} {a : α} {b : β}
    (hx : Reads x s a) (hf : Reads (f a) t b) : Reads (x >>= f) (s ++ t) b := by
  intro position rest
  rw [List.append_assoc, bind_of_ok (hx position (t ++ rest)), hf, List.length_append,
    Nat.add_assoc]

/-- An operation that only finishes what another has read. -/
theorem Reads.map {x : Read α} {f : α → Read β} {s : Octets} {a : α} {b : β}
    (hx : Reads x s a) (hf : Reads (f a) [] b) : Reads (x >>= f) s b := by
  simpa using hx.bind hf

/-! ## Numbers and texts -/

/-- So many octets as are asked for are taken as they stand. -/
theorem reads_readExactly (octets : Octets) : Reads (readExactly octets.length) octets octets := by
  intro position rest
  simp only [readExactly, List.take_left, List.drop_left, if_true]

/-- A number is read off its digits. -/
theorem reads_readNat {width n : Nat} (h : n < 256 ^ width) :
    Reads (readNat width) (Octets.bigEndian width n) n := by
  have hread := reads_readExactly (Octets.bigEndian width n)
  rw [Octets.length_bigEndian] at hread
  exact hread.map (by rw [Octets.toNat_bigEndian h]; exact .pure n)

theorem reads_readOctet (v : UInt8) : Reads readOctet (Octets.bigEndian 1 v.toNat) v :=
  (reads_readNat v.toNat_lt).map (by rw [UInt8.ofNat_toNat]; exact .pure v)

theorem reads_readShort (v : UInt16) : Reads readShort (Octets.bigEndian 2 v.toNat) v :=
  (reads_readNat v.toNat_lt).map (by rw [UInt16.ofNat_toNat]; exact .pure v)

theorem reads_readLong (v : UInt32) : Reads readLong (Octets.bigEndian 4 v.toNat) v :=
  (reads_readNat v.toNat_lt).map (by rw [UInt32.ofNat_toNat]; exact .pure v)

theorem reads_readLonglong (v : UInt64) : Reads readLonglong (Octets.bigEndian 8 v.toNat) v :=
  (reads_readNat v.toNat_lt).map (by rw [UInt64.ofNat_toNat]; exact .pure v)

/-- The length of octets that stand ahead is let through. -/
theorem checkLength_append (position : Nat) (body rest : Octets) :
    checkLength body.length ⟨position, body ++ rest⟩ = .ok () ⟨position, body ++ rest⟩ := by
  rw [checkLength, Reader.remaining, List.length_append, if_pos (Nat.le_add_right _ _)]

/-- A text is read off its encoding. -/
theorem reads_readText (text : String) :
    Reads (readText (Octets.ofText text).length) (Octets.ofText text) text := by
  intro position rest
  rw [readText, bind_of_ok (checkLength_append position (Octets.ofText text) rest),
    bind_of_ok (reads_readExactly (Octets.ofText text) position rest), Octets.toText?_ofText]
  rfl

/-- A short text is read behind its length, which has one octet. -/
theorem reads_readShortString {text : String} (h : (Octets.ofText text).length < 256) :
    Reads readShortString (Octets.bigEndian 1 (Octets.ofText text).length ++ Octets.ofText text)
      text :=
  (reads_readNat h).bind (reads_readText text)

theorem reads_readLongString {text : String} (h : (Octets.ofText text).length < UInt32.size) :
    Reads readLongString (Octets.bigEndian 4 (Octets.ofText text).length ++ Octets.ofText text)
      text :=
  (reads_readNat h).bind (reads_readText text)

/-- A tag is read as the kind it was written for. -/
theorem reads_readTag (p : Primitive) : Reads readTag [p.tag] p := by
  have htag := reads_readOctet p.tag
  rw [Octets.bigEndian_one] at htag
  refine htag.map ?_
  rw [Primitive.ofTag?_tag]
  exact .pure p

end Wire

end FrameSchema
