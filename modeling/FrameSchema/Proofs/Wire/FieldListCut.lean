import FrameSchema.Wire.FieldList
import FrameSchema.Proofs.Wire.FieldListRoundTrip

/-!
# Proofs/Wire/FieldListCut — a field list is cut in front of a field that is no bit

Bits are packed with their neighbours only, so a field that is no bit starts afresh: what stands in
front of it is written and read as if nothing followed, and what stands behind it as if nothing came
before (`writeFieldsAfter_append_cons`, `readFieldsAfter_append_cons`).
-/

namespace FrameSchema.Wire

/-! ## Writing -/

namespace Written

/-- One writer's output and then another's, which does not come to work where the first stopped. -/
def andThen : (first next : Written) → Written
  | ⟨octets, none⟩, next => .after octets next
  | ⟨octets, some fault⟩, _ => .stopped octets fault

/-- What is appended beforehand does not change where a writer stops. -/
@[simp] theorem after_andThen (octets : Octets) (first next : Written) :
    (Written.after octets first).andThen next = .after octets (first.andThen next) := by
  obtain ⟨s, fault⟩ := first
  cases fault with
  | none => exact congrArg (mk · next.fault) (List.append_assoc octets s next.octets)
  | some fault => rfl

/-- What is appended twice is appended as one. -/
@[simp] theorem after_after (s t : Octets) (w : Written) :
    Written.after s (.after t w) = .after (s ++ t) w :=
  congrArg (mk · w.fault) (List.append_assoc s t w.octets).symm

@[simp] theorem after_stopped (s t : Octets) (fault : Error) :
    Written.after s (.stopped t fault) = .stopped (s ++ t) fault := rfl

/-- Behind a writer that nothing stopped the next one goes on. -/
@[simp] theorem complete_andThen (octets : Octets) (next : Written) :
    (complete octets).andThen next = .after octets next := rfl

@[simp] theorem stopped_andThen (octets : Octets) (fault : Error) (next : Written) :
    (stopped octets fault).andThen next = .stopped octets fault := rfl

/-- Two writers come to their end exactly if each does. -/
theorem andThen_eq_complete_iff {first next : Written} {octets : Octets} :
    first.andThen next = .complete octets ↔
      ∃ s t, first = .complete s ∧ next = .complete t ∧ s ++ t = octets := by
  obtain ⟨s, fault⟩ := first
  cases fault with
  | none =>
    change Written.after s next = _ ↔ _
    rw [after_eq_complete_iff]
    constructor
    · rintro ⟨t, ht, hoctets⟩
      exact ⟨s, t, rfl, ht, hoctets⟩
    · rintro ⟨s', t, hs, ht, hoctets⟩
      obtain rfl : s = s' := (Written.mk.inj hs).1
      exact ⟨t, ht, hoctets⟩
  | some fault =>
    constructor
    · intro h
      cases (Written.mk.inj h).2
    · rintro ⟨_, _, hs, _, _⟩
      cases (Written.mk.inj hs).2

end Written

/-- **The writer starts afresh at a field that is no bit.** -/
theorem writeFieldsAfter_append_cons {value : Value} (h : value.primitive ≠ .bit)
    (back : List Value) : ∀ (front : List Value) (pending : PendingBits),
    writeFieldsAfter pending (front ++ value :: back)
      = (writeFieldsAfter pending front).andThen (writeFields (value :: back))
  | [], pending => by
      rw [List.nil_append, writeFieldsAfter, writeFields, writeFieldsAfter_cons h,
        writeFieldsAfter_cons h]
      cases value.encode with
      | error fault => simp
      | ok octets => simp
  | first :: front, pending => by
      rw [List.cons_append]
      by_cases hbit : first.primitive = .bit
      · obtain ⟨b, rfl⟩ := first.exists_eq_bit hbit
        rw [writeFieldsAfter, writeFieldsAfter, writeFieldsAfter_append_cons h back front,
          writeFieldsAfter_append_cons h back front]
        split
        · simp
        · rfl
      · rw [writeFieldsAfter_cons hbit, writeFieldsAfter_cons hbit]
        cases first.encode with
        | error fault => rfl
        | ok octets => simp [writeFieldsAfter_append_cons h back front]

/-! ## Reading -/

/-- **The reader starts afresh at a field that is no bit.** -/
theorem readFieldsAfter_append_cons {kind : Primitive} (h : kind ≠ .bit) (back : List Primitive) :
    ∀ (front : List Primitive) (cursor : BitCursor),
    readFieldsAfter cursor (front ++ kind :: back) = (do
      let first ← readFieldsAfter cursor front
      let next ← readFields (kind :: back)
      return first ++ next)
  | [], cursor => by
      rw [List.nil_append, readFieldsAfter, readFields, readFieldsAfter_cons h,
        readFieldsAfter_cons h]
      simp
  | first :: front, cursor => by
      rw [List.cons_append]
      by_cases hbit : first = .bit
      · subst hbit
        rw [readFieldsAfter, readFieldsAfter]
        simp [readFieldsAfter_append_cons h back front]
      · rw [readFieldsAfter_cons hbit, readFieldsAfter_cons hbit,
          readFieldsAfter_append_cons h back front]
        simp

end FrameSchema.Wire
