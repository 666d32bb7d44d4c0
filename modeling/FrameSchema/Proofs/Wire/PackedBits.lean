import FrameSchema.Proofs.Wire.ReceivedLists

/-!
# Proofs/Wire/PackedBits — a run of bits, and the octets that it is packed into

Bit `j` of a row of octets is bit `j % 8` of octet `j / 8` (`Octets.bitAt`).  In these words a run
of bits is written as the octets that it is `Packed` into, and is read from all octets that carry it
(`Carries`), whatever stands above its last bit.  Writer and reader go through a run with an octet
in hand that is partly used; what they hold is seen as the bits put into it (`PendingBits.Holds`),
and as the place from which on bits are still ahead (`CarriesFrom`).
-/

namespace FrameSchema

namespace Octets

/-! ## The bits of octets -/

/-- Bit `j` of a row of octets, eight to an octet and the lowest first; behind the end all are
clear. -/
def bitAt (octets : Octets) (j : Nat) : Bool := (octets.getD (j / 8) 0).toNat.testBit (j % 8)

theorem bitAt_singleton {octet : UInt8} {j : Nat} (h : j < 8) :
    bitAt [octet] j = octet.toNat.testBit j := by
  rw [bitAt, Nat.div_eq_of_lt h, Nat.mod_eq_of_lt h]
  rfl

/-- Behind the last octet no bit is set. -/
theorem bitAt_eq_false {octets : Octets} {j : Nat} (h : 8 * octets.length ≤ j) :
    octets.bitAt j = false := by
  rw [bitAt, List.getD_eq_default _ _ (by omega), UInt8.toNat_zero, Nat.zero_testBit]

/-- The bits of a front are not changed by what follows. -/
theorem bitAt_append_left {s : Octets} (t : Octets) {j : Nat} (h : j < 8 * s.length) :
    (s ++ t).bitAt j = s.bitAt j := by
  rw [bitAt, bitAt, List.getD_append _ _ _ _ (by omega)]

/-- Behind a front stand the bits of what follows, so many further on. -/
@[simp] theorem bitAt_append_right (s t : Octets) (j : Nat) :
    (s ++ t).bitAt (8 * s.length + j) = t.bitAt j := by
  have hplace : (8 * s.length + j) / 8 = s.length + j / 8 := by omega
  have hbit : (8 * s.length + j) % 8 = j % 8 := by omega
  rw [bitAt, bitAt, hplace, hbit, List.getD_append_right _ _ _ _ (Nat.le_add_right _ _),
    Nat.add_sub_cancel_left]

/-- **Octets are known by their number and their bits.** -/
theorem ext_bitAt {s t : Octets} (hlength : s.length = t.length)
    (h : ∀ j < 8 * s.length, s.bitAt j = t.bitAt j) : s = t := by
  refine List.ext_getElem hlength fun i hi hi' => UInt8.toNat_inj.1 ?_
  refine Nat.eq_of_testBit_eq fun k => ?_
  by_cases hk : k < 8
  · have hplace : (8 * i + k) / 8 = i := by omega
    have hbit : (8 * i + k) % 8 = k := by omega
    have hsame := h (8 * i + k) (by omega)
    rwa [bitAt, bitAt, hplace, hbit, List.getD_eq_getElem _ _ hi, List.getD_eq_getElem _ _ hi']
      at hsame
  · have hlarge : ∀ octet : UInt8, octet.toNat.testBit k = false := fun octet =>
      Nat.testBit_lt_two_pow (octet.toNat_lt.trans_le (Nat.pow_le_pow_right (by decide) (by omega)))
    rw [hlarge, hlarge]

end Octets

namespace Wire

/-! ## Bits in octets -/

/-- Octets that carry some bits: as many as it takes at eight to an octet, bit `j` being bit `j % 8`
of octet `j / 8`.  What stands above the last of the bits is left open. -/
structure Carries (bits : List Bool) (octets : Octets) : Prop where
  length : octets.length = (bits.length + 7) / 8
  bit : ∀ (j : Nat) (h : j < bits.length), octets.bitAt j = bits[j]

/-- Octets that carry some bits and no others: above the last of the bits all are clear. -/
structure Packed (bits : List Bool) (octets : Octets) : Prop extends Carries bits octets where
  clear : ∀ j, bits.length ≤ j → octets.bitAt j = false

/-- Bits are packed into the fewest octets that hold them, and all others there are clear. -/
theorem packed_iff {bits : List Bool} {octets : Octets} : Packed bits octets ↔
    octets.length = (bits.length + 7) / 8 ∧ ∀ j, octets.bitAt j = bits.getD j false := by
  constructor
  · intro h
    refine ⟨h.length, fun j => ?_⟩
    by_cases hj : j < bits.length
    · rw [h.bit j hj, List.getD_eq_getElem _ _ hj]
    · rw [h.clear j (Nat.le_of_not_lt hj), List.getD_eq_default _ _ (Nat.le_of_not_lt hj)]
  · rintro ⟨hlength, h⟩
    refine ⟨⟨hlength, fun j hj => ?_⟩, fun j hj => ?_⟩
    · rw [h, List.getD_eq_getElem _ _ hj]
    · rw [h, List.getD_eq_default _ _ hj]

/-- Bits are packed in one way only. -/
theorem Packed.unique {bits : List Bool} {s t : Octets} (hs : Packed bits s) (ht : Packed bits t) :
    s = t := by
  obtain ⟨hslength, hsbit⟩ := packed_iff.1 hs
  obtain ⟨htlength, htbit⟩ := packed_iff.1 ht
  exact Octets.ext_bitAt (hslength.trans htlength.symm) fun j _ => (hsbit j).trans (htbit j).symm

/-- Behind octets that are full others go on. -/
theorem Packed.append {bits bits' : List Bool} {s t : Octets} (hs : Packed bits s)
    (hfull : bits.length = 8 * s.length) (ht : Packed bits' t) :
    Packed (bits ++ bits') (s ++ t) := by
  obtain ⟨_, hsbit⟩ := packed_iff.1 hs
  obtain ⟨htlength, htbit⟩ := packed_iff.1 ht
  refine packed_iff.2 ⟨by simp only [List.length_append]; omega, fun j => ?_⟩
  by_cases hj : j < bits.length
  · rw [Octets.bitAt_append_left t (hfull ▸ hj), hsbit, List.getD_append _ _ _ _ hj]
  · obtain ⟨k, rfl⟩ := Nat.exists_eq_add_of_le (Nat.le_of_not_lt hj)
    rw [List.getD_append_right _ _ _ _ (Nat.le_add_right _ _), Nat.add_sub_cancel_left, hfull,
      Octets.bitAt_append_right, htbit]

/-- Whatever octets are at hand carry some bits. -/
theorem exists_carries {count : Nat} {octets : Octets} (h : octets.length = (count + 7) / 8) :
    ∃ bits, bits.length = count ∧ Carries bits octets := by
  have hlength : ((List.range count).map octets.bitAt).length = count := by simp
  refine ⟨_, hlength, by rw [hlength, h], fun j hj => ?_⟩
  rw [List.getElem_map, List.getElem_range]

/-! ## Writing -/

namespace PendingBits

/-- The waiting bits, from the lowest bit of their octet on. -/
structure Holds (pending : PendingBits) (waiting : List Bool) : Prop where
  count : pending.count = waiting.length
  le : pending.count ≤ 8
  bit : ∀ j, pending.octet.toNat.testBit j = waiting.getD j false

theorem holds_none : none.Holds [] := ⟨rfl, by decide, fun j => by simp [none]⟩

theorem Holds.valid {pending : PendingBits} {waiting : List Bool} (h : pending.Holds waiting) :
    pending.Valid := by
  refine ⟨h.le, Nat.lt_pow_two_of_testBit _ fun j hj => ?_⟩
  rw [h.bit, List.getD_eq_default _ _ (h.count ▸ hj)]

/-- A bit that is added comes behind those waiting. -/
theorem Holds.push {pending : PendingBits} {waiting : List Bool} (h : pending.Holds waiting)
    (hlt : pending.count < 8) (b : Bool) : (pending.push b).Holds (waiting ++ [b]) := by
  refine ⟨?_, hlt, fun j => ?_⟩
  · rw [List.length_append, List.length_singleton, ← h.count]
    rfl
  · rw [testBit_push h.valid hlt, h.bit, h.count]
    by_cases hj : j < waiting.length
    · rw [if_neg hj.ne, List.getD_append _ _ _ _ hj]
    · obtain ⟨k, rfl⟩ := Nat.exists_eq_add_of_le (Nat.le_of_not_lt hj)
      rw [List.getD_append_right _ _ _ _ (Nat.le_add_right _ _), Nat.add_sub_cancel_left,
        List.getD_eq_default waiting _ (Nat.le_add_right _ _)]
      cases k with
      | zero => rw [Nat.add_zero, if_pos rfl]; rfl
      | succ k => rw [if_neg (by omega)]; rfl

/-- The octet that goes out is the waiting bits, packed. -/
theorem Holds.packed {pending : PendingBits} {waiting : List Bool} (h : pending.Holds waiting) :
    Packed waiting pending.flush := by
  have hcount := h.count
  have hle := h.le
  refine packed_iff.2 ⟨by rw [length_flush]; split <;> omega, fun j => ?_⟩
  by_cases hj : j < 8 * pending.flush.length
  · have hpos : pending.count ≠ 0 := by
      rw [length_flush] at hj
      split at hj <;> omega
    rw [length_flush, if_neg hpos] at hj
    rw [flush, if_neg hpos, Octets.bitAt_singleton hj, h.bit]
  · rw [Octets.bitAt_eq_false (Nat.le_of_not_lt hj), List.getD_eq_default _ _ ?_]
    rw [length_flush] at hj
    split at hj <;> omega

end PendingBits

/-- **Bits are written packed, behind those that wait for their octet to fill up.** -/
theorem writeFieldsAfter_bits (bits : List Bool) {pending : PendingBits} {waiting : List Bool}
    (h : pending.Holds waiting) : ∃ octets,
      writeFieldsAfter pending (bits.map .bit) = .complete octets ∧
        Packed (waiting ++ bits) octets := by
  induction bits generalizing pending waiting with
  | nil => exact ⟨pending.flush, rfl, by rw [List.append_nil]; exact h.packed⟩
  | cons b bits ih =>
    rw [List.map_cons, writeFieldsAfter]
    by_cases hfull : pending.count = 8
    · obtain ⟨t, ht, hpacked⟩ := ih (PendingBits.holds_none.push (by decide) b)
      have hoctet : waiting.length = 8 * pending.flush.length := by
        rw [PendingBits.length_flush, hfull, ← h.count, hfull]
        rfl
      rw [if_pos hfull, ht]
      exact ⟨pending.flush ++ t, rfl, h.packed.append hoctet hpacked⟩
    · obtain ⟨t, ht, hpacked⟩ := ih (h.push (lt_of_le_of_ne h.le hfull) b)
      rw [if_neg hfull, ht]
      exact ⟨t, rfl, by rwa [List.append_assoc] at hpacked⟩

/-- **A run of bits is written as the octets that it is packed into.** -/
theorem writeFields_bits_eq_complete_iff {bits : List Bool} {octets : Octets} :
    writeFields (bits.map .bit) = .complete octets ↔ Packed bits octets := by
  obtain ⟨s, hs, hpacked⟩ := writeFieldsAfter_bits bits PendingBits.holds_none
  rw [writeFields, hs]
  constructor
  · intro h
    obtain rfl : s = octets := (Written.mk.inj h).1
    exact hpacked
  · intro h
    rw [hpacked.unique h]

/-! ## Reading -/

/-- Octets that carry some bits from a place on. -/
structure CarriesFrom (start : Nat) (bits : List Bool) (octets : Octets) : Prop where
  length : octets.length = (start + bits.length + 7) / 8
  bit : ∀ (j : Nat) (h : j < bits.length), octets.bitAt (start + j) = bits[j]

theorem carriesFrom_zero_iff {bits : List Bool} {octets : Octets} :
    CarriesFrom 0 bits octets ↔ Carries bits octets := by
  constructor
  · rintro ⟨hlength, hbit⟩
    rw [Nat.zero_add] at hlength
    exact ⟨hlength, fun j hj => by rw [← hbit j hj, Nat.zero_add]⟩
  · rintro ⟨hlength, hbit⟩
    refine ⟨by rw [Nat.zero_add, hlength], fun j hj => by rw [← hbit j hj, Nat.zero_add]⟩

namespace CarriesFrom

variable {start : Nat} {b : Bool} {bits : List Bool} {octets : Octets}

theorem head (h : CarriesFrom start (b :: bits) octets) : octets.bitAt start = b :=
  h.bit 0 (Nat.zero_lt_succ _)

theorem tail (h : CarriesFrom start (b :: bits) octets) : CarriesFrom (start + 1) bits octets := by
  refine ⟨?_, fun j hj => ?_⟩
  · rw [h.length, List.length_cons]
    omega
  · rw [Nat.add_right_comm, Nat.add_assoc]
    exact h.bit (j + 1) (Nat.succ_lt_succ hj)

/-- An octet whose bits are all behind does not matter. -/
theorem drop {octet : UInt8} (h : CarriesFrom 8 bits (octet :: octets)) :
    CarriesFrom 0 bits octets := by
  obtain ⟨hlength, hbit⟩ := h
  rw [List.length_cons] at hlength
  refine ⟨by omega, fun j hj => ?_⟩
  rw [← hbit j hj, Nat.zero_add]
  exact (Octets.bitAt_append_right [octet] octets j).symm

end CarriesFrom

/-- The octet in hand, unless none is open. -/
def BitCursor.inHand (cursor : BitCursor) : Octets :=
  if cursor.taken = 0 then [] else [cursor.octet]

theorem BitCursor.length_inHand (cursor : BitCursor) :
    cursor.inHand.length = if cursor.taken = 0 then 0 else 1 := by
  rw [inHand]
  split
  · rfl
  · rfl

/-- **Bits are read from the octets that carry them**, behind those that were taken from the octet
in hand. -/
theorem reads_bits (bits : List Bool) {cursor : BitCursor} {octets : Octets}
    (hle : cursor.taken ≤ 8) (h : CarriesFrom cursor.taken bits (cursor.inHand ++ octets)) :
    Reads (readFieldsAfter cursor (List.replicate bits.length .bit)) octets (bits.map .bit) := by
  induction bits generalizing cursor octets with
  | nil =>
    have hlength := h.length
    rw [List.length_append, BitCursor.length_inHand, List.length_nil] at hlength
    obtain rfl : octets = [] := by
      refine List.eq_nil_of_length_eq_zero ?_
      split at hlength <;> omega
    exact .pure []
  | cons b bits ih =>
    rw [List.length_cons, List.replicate_succ, List.map_cons]
    by_cases hopen : 0 < cursor.taken ∧ cursor.taken < 8
    · obtain ⟨hpos, hlt⟩ := hopen
      have hhand : cursor.inHand = [cursor.octet] := if_neg hpos.ne'
      rw [hhand] at h
      have hb : cursor.octet.toNat.testBit cursor.taken = b := by
        rw [← h.head, Octets.bitAt_append_left octets hlt, Octets.bitAt_singleton hlt]
      rw [← hb]
      exact .openBit hpos hlt (ih hlt h.tail)
    · have hused : cursor.taken = 0 ∨ cursor.taken = 8 := by omega
      have hfresh : CarriesFrom 0 (b :: bits) octets := by
        rcases hused with h0 | h8
        · rwa [BitCursor.inHand, if_pos h0, h0] at h
        · rw [BitCursor.inHand, if_neg (by omega), h8] at h
          exact h.drop
      obtain ⟨octet, rest, rfl⟩ : ∃ octet rest, octets = octet :: rest := by
        refine List.exists_cons_of_length_pos ?_
        rw [hfresh.length, List.length_cons]
        omega
      have hb : octet.toNat.testBit 0 = b := by
        rw [← hfresh.head]
        rfl
      rw [← hb]
      exact .freshBit hused (ih (Nat.le_add_left 1 7) hfresh.tail)

/-- **A run of bits reads exactly the octets that carry it.** -/
theorem reads_bits_iff {count : Nat} {octets : Octets} {values : List Value} :
    Reads (readFields (List.replicate count .bit)) octets values ↔
      ∃ bits, bits.length = count ∧ Carries bits octets ∧ bits.map .bit = values := by
  constructor
  · intro hread
    -- With zeros behind them the octets are enough.  What they carry then is read, so it was read.
    obtain ⟨full, rest, hfull, hlength⟩ : ∃ full rest,
        full ++ rest = octets ++ List.replicate count 0 ∧ full.length = (count + 7) / 8 := by
      refine ⟨_, _, List.take_append_drop ((count + 7) / 8) _, ?_⟩
      rw [List.length_take, List.length_append, List.length_replicate]
      omega
    obtain ⟨bits, rfl, hcarries⟩ := exists_carries hlength
    have hbits : Reads (readFields _) full (bits.map .bit) :=
      reads_bits bits (Nat.zero_le 8) (carriesFrom_zero_iff.2 hcarries)
    have hsame := hbits 0 rest
    rw [hfull, hread 0 _] at hsame
    obtain ⟨rfl, hend⟩ := EStateM.Result.ok.inj hsame
    obtain ⟨hposition, -⟩ := Reader.mk.inj hend
    rw [Nat.zero_add, Nat.zero_add] at hposition
    obtain ⟨rfl, -⟩ := List.append_inj hfull hposition.symm
    exact ⟨bits, rfl, hcarries, rfl⟩
  · rintro ⟨bits, rfl, hcarries, rfl⟩
    exact reads_bits bits (Nat.zero_le 8) (carriesFrom_zero_iff.2 hcarries)

end Wire

end FrameSchema
