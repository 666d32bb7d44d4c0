import FrameSchema.Wire.FieldList
import FrameSchema.Proofs.Wire.Bits
import FrameSchema.Proofs.Wire.ValueRoundTrip

/-!
# Proofs/Wire/FieldListRoundTrip — a field list is read back

The writer puts a bit octet out when it is full or another field comes; the reader takes it in when
the first of its bits is asked for.  In between the reader is one octet ahead, and `Resumes` says
so: the bits waiting at the writer are the low bits of the octet open at the reader.  The relation
is kept along the list (`resumes_writeFieldsAfter`), whence `reads_writeFields`.
-/

namespace FrameSchema.Wire

/-! ## What success of a writer says -/

namespace Written

/-- Nothing stopped a writer exactly if nothing did behind its first octets. -/
theorem after_eq_complete_iff {s octets : Octets} {w : Written} :
    Written.after s w = .complete octets ↔ ∃ t, w = .complete t ∧ s ++ t = octets := by
  obtain ⟨t, fault⟩ := w
  constructor
  · intro h
    obtain ⟨hs, rfl⟩ : s ++ t = octets ∧ fault = none := Written.mk.inj h
    exact ⟨t, rfl, hs⟩
  · rintro ⟨t', ht, rfl⟩
    rw [ht]
    rfl

/-- Output goes on exactly behind what can be encoded. -/
theorem encoded_eq_complete_iff {x : Except Error Octets} {f : Octets → Octets}
    {s octets : Octets} {w : Written} :
    (match x with
      | .ok v => Written.after (f v) w
      | .error fault => .stopped s fault) = .complete octets ↔
      ∃ v t, x = .ok v ∧ w = .complete t ∧ f v ++ t = octets := by
  cases x with
  | error fault =>
    exact ⟨fun h => (nomatch (Written.mk.inj h).2), fun ⟨_, _, hv, _⟩ => (nomatch hv)⟩
  | ok v =>
    rw [after_eq_complete_iff]
    exact ⟨fun ⟨t, ht⟩ => ⟨v, t, rfl, ht⟩, fun ⟨v', t, hv, ht⟩ => ⟨t, Except.ok.inj hv ▸ ht⟩⟩

/-- A writer has octets to show exactly if nothing stopped it. -/
theorem toExcept_eq_ok_iff {w : Written} {octets : Octets} :
    w.toExcept = .ok octets ↔ w = .complete octets := by
  obtain ⟨s, fault⟩ := w
  cases fault with
  | none => exact ⟨fun h => congrArg complete (Except.ok.inj h), fun h => by rw [h]; rfl⟩
  | some fault => exact ⟨fun h => (nomatch h), fun h => (nomatch (Written.mk.inj h).2)⟩

end Written

theorem Value.exists_eq_bit (value : Value) (h : value.primitive = .bit) :
    ∃ b, value = .bit b := by
  cases value with
  | bit b => exact ⟨b, rfl⟩
  | _ => cases h

/-- A field that is no bit stands as it is, behind the octet of the waiting bits. -/
theorem writeFieldsAfter_cons {pending : PendingBits} {value : Value} {rest : List Value}
    (h : value.primitive ≠ .bit) : writeFieldsAfter pending (value :: rest) =
      match value.encode with
      | .ok octets => .after (pending.flush ++ octets) (writeFieldsAfter .none rest)
      | .error fault => .stopped pending.flush fault := by
  cases value with
  | bit v => exact absurd rfl h
  | _ => rfl

/-- A field that is no bit is written if it can be, and those behind it are written afresh. -/
theorem writeFieldsAfter_cons_eq_complete_iff {pending : PendingBits} {value : Value}
    {rest : List Value} {octets : Octets} (h : value.primitive ≠ .bit) :
    writeFieldsAfter pending (value :: rest) = .complete octets ↔
      ∃ v t, value.encode = .ok v ∧ writeFieldsAfter .none rest = .complete t ∧
        pending.flush ++ v ++ t = octets := by
  rw [writeFieldsAfter_cons h]
  exact Written.encoded_eq_complete_iff (f := (pending.flush ++ ·))

/-! ## What the reader does next -/

section Reader

variable {cursor : BitCursor} {kinds : List Primitive} {octets : Octets} {values : List Value}

/-- A field that is no bit is read on its own. -/
theorem readFieldsAfter_cons {kind : Primitive} (h : kind ≠ .bit) :
    readFieldsAfter cursor (kind :: kinds) = (do
      let value ← readValue maxTableDepth kind
      let rest ← readFieldsAfter .none kinds
      return value :: rest) := by
  cases kind with
  | bit => exact absurd rfl h
  | _ => rfl

/-- A field that is no bit takes its own octets, and those behind it are read afresh. -/
theorem Reads.field {value : Value} {v : Octets} (hbit : value.primitive ≠ .bit)
    (hvalue : Reads (readValue maxTableDepth value.primitive) v value)
    (hrest : Reads (readFieldsAfter .none kinds) octets values) :
    Reads (readFieldsAfter cursor (value.primitive :: kinds)) (v ++ octets) (value :: values) := by
  rw [readFieldsAfter_cons hbit]
  exact hvalue.bind (hrest.map (.pure _))

/-- A bit of an octet that is open is taken from it. -/
theorem Reads.openBit (hpos : 0 < cursor.taken) (hlt : cursor.taken < 8)
    (hrest : Reads (readFieldsAfter ⟨cursor.octet, cursor.taken + 1⟩ kinds) octets values) :
    Reads (readFieldsAfter cursor (.bit :: kinds)) octets
      (.bit (cursor.octet.toNat.testBit cursor.taken) :: values) := by
  have hcursor : Reads cursor.advance [] cursor := by
    rw [BitCursor.advance, if_neg (by omega)]
    exact .pure cursor
  have hbit : cursor.bit = cursor.octet.toNat.testBit cursor.taken := octet_and_mask hlt
  rw [readFieldsAfter, ← hbit]
  exact hcursor.bind (hrest.map (.pure _))

/-- Where no octet is open, or the open one is used up, a bit is the lowest of the next octet. -/
theorem Reads.freshBit {octet : UInt8} (hcursor : cursor.taken = 0 ∨ cursor.taken = 8)
    (hrest : Reads (readFieldsAfter ⟨octet, 1⟩ kinds) octets values) :
    Reads (readFieldsAfter cursor (.bit :: kinds)) (octet :: octets)
      (.bit (octet.toNat.testBit 0) :: values) := by
  have hnext : Reads cursor.advance [octet] ⟨octet, 0⟩ := by
    have hoctet : Reads readOctet [octet] octet := by simpa using reads_readOctet octet
    rw [BitCursor.advance, if_pos hcursor]
    exact hoctet.map (.pure _)
  have hbit : (⟨octet, 0⟩ : BitCursor).bit = octet.toNat.testBit 0 :=
    octet_and_mask (i := 0) (by decide)
  rw [readFieldsAfter, ← hbit]
  exact hnext.bind (t := octets) (hrest.map (.pure _))

end Reader

/-! ## Waiting bits -/

namespace PendingBits

/-- The waiting bits are at most eight, and the octet so far has no other bits. -/
structure Valid (pending : PendingBits) : Prop where
  count_le : pending.count ≤ 8
  octet_lt : pending.octet.toNat < 2 ^ pending.count

theorem valid_none : none.Valid := ⟨by decide, by decide⟩

/-- A bit that is added stands above those waiting, which stay. -/
theorem testBit_push {pending : PendingBits} (h : pending.Valid) (hlt : pending.count < 8)
    (b : Bool) (i : Nat) : (pending.push b).octet.toNat.testBit i
      = if i = pending.count then b else pending.octet.toNat.testBit i := by
  have htop : pending.octet.toNat.testBit pending.count = false :=
    Nat.testBit_lt_two_pow h.octet_lt
  cases b with
  | false =>
    rw [push, if_neg Bool.false_ne_true]
    by_cases hi : i = pending.count
    · rw [if_pos hi, hi, htop]
    · rw [if_neg hi]
  | true =>
    rw [push, if_pos rfl, testBit_octet_or_mask hlt]
    by_cases hi : i = pending.count
    · rw [if_pos hi, hi, decide_eq_true rfl, Bool.or_true]
    · rw [if_neg hi, decide_eq_false (Ne.symm hi), Bool.or_false]

/-- A bit more keeps the octet within those that wait. -/
theorem Valid.push {pending : PendingBits} (h : pending.Valid) (hlt : pending.count < 8)
    (b : Bool) : (pending.push b).Valid := by
  refine ⟨hlt, Nat.lt_pow_two_of_testBit _ fun i hi => ?_⟩
  change pending.count + 1 ≤ i at hi
  rw [testBit_push h hlt, if_neg (by omega)]
  exact Nat.testBit_lt_two_pow (h.octet_lt.trans_le (Nat.pow_le_pow_right (by decide) (by omega)))

end PendingBits

/-! ## The writer and the reader side by side -/

/-- The octets written behind waiting bits, seen from the reader: where no bit waits, it reads on
from a fresh octet; otherwise it holds the next octet, whose low bits are those that wait. -/
structure Resumes (pending : PendingBits) (octets : Octets) (values : List Value) : Prop where
  fresh : pending.count = 0 → ∀ cursor : BitCursor, cursor.taken = 0 ∨ cursor.taken = 8 →
    Reads (readFieldsAfter cursor (values.map Value.primitive)) octets values
  started : 0 < pending.count → ∃ octet rest, octets = octet :: rest ∧
    (∀ i < pending.count, octet.toNat.testBit i = pending.octet.toNat.testBit i) ∧
    Reads (readFieldsAfter ⟨octet, pending.count⟩ (values.map Value.primitive)) rest values

namespace Resumes

variable {pending : PendingBits} {octets : Octets} {values : List Value}

/-- Behind waiting bits stands their octet, and what is read afterwards. -/
theorem flush (h : ∀ cursor : BitCursor, cursor.taken = pending.count ∨
      (pending.count = 0 ∧ cursor.taken = 8) →
      Reads (readFieldsAfter cursor (values.map Value.primitive)) octets values) :
    Resumes pending (pending.flush ++ octets) values where
  fresh h0 cursor hcursor := by
    rw [PendingBits.flush, if_pos h0]
    exact h cursor (by omega)
  started hpos := by
    rw [PendingBits.flush, if_neg (by omega)]
    exact ⟨pending.octet, octets, rfl, fun _ _ => rfl, h _ (.inl rfl)⟩

/-- A bit joins those waiting. -/
theorem push {b : Bool} (hvalid : pending.Valid) (hlt : pending.count < 8)
    (h : Resumes (pending.push b) octets values) : Resumes pending octets (.bit b :: values) := by
  obtain ⟨octet, rest, rfl, hbits, hrest⟩ := h.started (Nat.succ_pos _)
  have hlow : ∀ i < pending.count, octet.toNat.testBit i = pending.octet.toNat.testBit i := by
    intro i hi
    rw [hbits i (Nat.lt_succ_of_lt hi), PendingBits.testBit_push hvalid hlt, if_neg hi.ne]
  have htop : octet.toNat.testBit pending.count = b := by
    rw [hbits _ (Nat.lt_succ_self _), PendingBits.testBit_push hvalid hlt, if_pos rfl]
  refine ⟨fun h0 cursor hcursor => ?_, fun hpos => ⟨octet, rest, rfl, hlow, ?_⟩⟩
  · have hfirst : octet.toNat.testBit 0 = b := h0 ▸ htop
    rw [← hfirst]
    change Reads (readFieldsAfter ⟨octet, pending.count + 1⟩ _) _ _ at hrest
    rw [h0] at hrest
    exact .freshBit hcursor hrest
  · rw [← htop]
    exact .openBit hpos hlt hrest

end Resumes

/-- **Whatever is written behind waiting bits is read behind them.** -/
theorem resumes_writeFieldsAfter : ∀ (values : List Value) {pending : PendingBits}
    {octets : Octets}, pending.Valid → (∀ v ∈ values, v.tableDepth ≤ maxTableDepth) →
      writeFieldsAfter pending values = .complete octets → Resumes pending octets values
  | [], pending, octets, _, _, h => by
      obtain rfl : pending.flush = octets := (Written.mk.inj h).1
      have hflush : Resumes pending (pending.flush ++ []) [] := .flush fun _ _ => .pure []
      simpa using hflush
  | value :: values, pending, octets, hvalid, hdepth, h => by
      have hrest := fun v hv => hdepth v (List.mem_cons_of_mem value hv)
      by_cases hbit : value.primitive = .bit
      · obtain ⟨b, rfl⟩ := value.exists_eq_bit hbit
        rw [writeFieldsAfter] at h
        by_cases hfull : pending.count = 8
        · -- The octet is full: it goes out, and the bit opens the next one.
          rw [if_pos hfull, Written.after_eq_complete_iff] at h
          obtain ⟨t, ht, rfl⟩ := h
          have hfirst : Resumes .none t (.bit b :: values) :=
            .push PendingBits.valid_none (by decide)
              (resumes_writeFieldsAfter values (PendingBits.valid_none.push (by decide) b) hrest ht)
          exact .flush fun cursor hcursor => hfirst.fresh rfl cursor (by omega)
        · have hlt : pending.count < 8 := lt_of_le_of_ne hvalid.count_le hfull
          rw [if_neg hfull] at h
          exact .push hvalid hlt (resumes_writeFieldsAfter values (hvalid.push hlt b) hrest h)
      · obtain ⟨v, t, hv, ht, rfl⟩ := (writeFieldsAfter_cons_eq_complete_iff hbit).1 h
        have hvalue := value.reads_encode hv (hdepth value List.mem_cons_self)
        have htail := (resumes_writeFieldsAfter values PendingBits.valid_none hrest ht).fresh rfl
          .none (.inl rfl)
        rw [List.append_assoc]
        exact .flush fun cursor _ => .field hbit hvalue htail

/-- **A field list is read back** by the kinds of its fields, if no table is too deep. -/
theorem reads_writeFields {values : List Value} {octets : Octets}
    (hdepth : ∀ v ∈ values, v.tableDepth ≤ maxTableDepth)
    (h : writeFields values = .complete octets) :
    Reads (readFields (values.map Value.primitive)) octets values :=
  (resumes_writeFieldsAfter values PendingBits.valid_none hdepth h).fresh rfl .none (.inl rfl)

end FrameSchema.Wire
