import FrameSchema.Proofs.Wire.FieldListRoundTrip
import FrameSchema.Proofs.Wire.Reencoding

/-!
# Proofs/Wire/EncodingOutcome — what becomes of a value that is to be written

Nothing but a length can keep a value from being written.  Where lengths of four octets suffice
(`Value.LongFits`), the texts behind a length of one octet decide: the first of them that is too
long, in the order of the octets, stops the writer (`shortFault`), and if none is, the value takes
the octets of its parts (`Value.size`).  Of a field list the first value with a fault decides, since
bits have none (`fault_writeFieldsAfter`).
-/

namespace FrameSchema.Wire

/-! ## Sizes -/

mutual

/-- The number of octets that a value takes. -/
def Value.size : Value → Nat
  | .octet _ | .bit _ => 1
  | .short _ => 2
  | .long _ => 4
  | .longlong _ | .timestamp _ => 8
  | .shortstr s => 1 + s.utf8ByteSize
  | .longstr s => 4 + s.utf8ByteSize
  | .table entries => 4 + entries.size

/-- The number of octets that entries take: a key behind its length, a tag and a value each. -/
def Entries.size : {floor : Option String} → Entries floor → Nat
  | _, .nil => 0
  | _, .cons key _ value rest => 1 + key.utf8ByteSize + 1 + value.size + rest.size

end

mutual

/-- The sizes of what stands in a value behind a length of four octets: long strings, and the
entries of tables. -/
def Value.longSizes : Value → List Nat
  | .longstr s => [s.utf8ByteSize]
  | .table entries => entries.size :: entries.longSizes
  | _ => []

/-- The sizes of what stands behind a length of four octets in the values of entries. -/
def Entries.longSizes : {floor : Option String} → Entries floor → List Nat
  | _, .nil => []
  | _, .cons _ _ value rest => value.longSizes ++ rest.longSizes

end

/-- Lengths of four octets suffice for the value. -/
def Value.LongFits (value : Value) : Prop := ∀ n ∈ value.longSizes, n < 2 ^ 32

instance (value : Value) : Decidable value.LongFits :=
  inferInstanceAs (Decidable (∀ n ∈ value.longSizes, n < 2 ^ 32))

/-! ## Faults -/

/-- The fault of the first text that is too long for a length of one octet. -/
def shortFault (texts : List String) : Option Error :=
  (texts.find? fun s => 255 < s.utf8ByteSize).map fun s => .shortStringTooLong s.utf8ByteSize

/-- The first fault of two rows of texts is that of the first row, if it has one. -/
@[simp] theorem shortFault_append (texts texts' : List String) :
    shortFault (texts ++ texts') = (shortFault texts).or (shortFault texts') := by
  rw [shortFault, List.find?_append, Option.map_or]
  rfl

/-- No fault is found where no text is too long. -/
theorem shortFault_eq_none_iff {texts : List String} :
    shortFault texts = none ↔ ∀ s ∈ texts, s.utf8ByteSize ≤ 255 := by
  simp [shortFault]

theorem shortFault_cons (s : String) (texts : List String) :
    shortFault (s :: texts) = (shortFault [s]).or (shortFault texts) := shortFault_append [s] texts

/-- A fault is the size of a text that is too long. -/
theorem exists_of_shortFault_eq_some {texts : List String} {cause : Error}
    (h : shortFault texts = some cause) :
    ∃ s ∈ texts, 255 < s.utf8ByteSize ∧ cause = .shortStringTooLong s.utf8ByteSize := by
  obtain ⟨s, hs, rfl⟩ := Option.map_eq_some_iff.1 h
  exact ⟨s, List.mem_of_find?_eq_some hs, by simpa using List.find?_some hs, rfl⟩

/-- A writer stops at a fault, or appends so many octets if there is none. -/
inductive EndsWith (size : Nat) : Option Error → Except Error Octets → Prop where
  | ok {octets : Octets} (length : octets.length = size) : EndsWith size none (.ok octets)
  | error (cause : Error) : EndsWith size (some cause) (.error cause)

namespace EndsWith

variable {size size' : Nat} {fault fault' : Option Error} {x : Except Error Octets}

/-- **The first fault of a sequence decides.** -/
theorem bind {f : Octets → Except Error Octets} (hx : EndsWith size fault x)
    (hf : ∀ octets, octets.length = size → EndsWith size' fault' (f octets)) :
    EndsWith size' (fault.or fault') (x >>= f) := by
  cases hx with
  | ok length =>
    rw [Option.none_or]
    exact hf _ length
  | error cause => exact .error cause

/-- A step that does not fail finishes what another has written. -/
theorem map {g : Octets → Octets} (hx : EndsWith size fault x)
    (hg : ∀ octets, octets.length = size → (g octets).length = size') :
    EndsWith size' fault (x >>= fun octets => pure (g octets)) := by
  have hall := hx.bind (f := fun octets => pure (g octets)) fun octets h => .ok (hg octets h)
  rwa [Option.or_none] at hall

end EndsWith

/-! ## Values -/

/-- A short text takes one octet more than itself, or is the fault. -/
theorem endsWith_encodeShortString (s : String) :
    EndsWith (1 + s.utf8ByteSize) (shortFault [s]) (encodeShortString s) := by
  by_cases h : 255 < s.utf8ByteSize
  · have hfault : shortFault [s] = some (.shortStringTooLong s.utf8ByteSize) := by
      simp [shortFault, h]
    rw [hfault, encodeShortString, if_neg (by simp; omega)]
    exact .error _
  · rw [shortFault_eq_none_iff.2 (by simpa using h), encodeShortString,
      if_pos (by simp; omega)]
    exact .ok (by simp)

/-- Octets that a length of four octets suffices for take four more than themselves. -/
theorem endsWith_encodeLong (tooLong : Nat → Error) {body : Octets} {n : Nat}
    (hlength : body.length = n) (h : n < 2 ^ 32) :
    EndsWith (4 + n) none (encodeLong tooLong body) := by
  have hfits : body.length < UInt32.size := hlength ▸ h
  rw [encodeLong, if_pos hfits]
  exact .ok (by simp [hlength])

mutual

/-- **The outcome of writing a value** is the fault of the first text that is too long, or the
octets of the value. -/
theorem Value.endsWith_encode : ∀ (value : Value), value.LongFits →
    EndsWith value.size (shortFault value.shortTexts) value.encode
  | .octet _, _ | .short _, _ | .long _, _ | .longlong _, _ | .timestamp _, _ | .bit _, _ =>
      .ok (Octets.length_bigEndian ..)
  | .shortstr s, _ => endsWith_encodeShortString s
  | .longstr s, h => endsWith_encodeLong _ (Octets.length_ofText s) (h _ List.mem_cons_self)
  | .table entries, h => by
      obtain ⟨hsize, hentries⟩ := List.forall_mem_cons.1 h
      have hall := (entries.endsWith_encode hentries).bind fun body hbody =>
        endsWith_encodeLong .tableTooLong hbody hsize
      rw [Option.or_none] at hall
      rw [Value.encode]
      exact hall

theorem Entries.endsWith_encode : ∀ {floor : Option String} (entries : Entries floor),
    (∀ n ∈ entries.longSizes, n < 2 ^ 32) →
      EndsWith entries.size (shortFault entries.shortTexts) entries.encode
  | _, .nil, _ => .ok rfl
  | _, .cons key above value rest, h => by
      rw [Entries.longSizes, List.forall_mem_append] at h
      rw [Entries.shortTexts, shortFault_cons, shortFault_append, Entries.encode]
      refine (endsWith_encodeShortString key).bind fun k hk =>
        (value.endsWith_encode h.1).bind fun v hv => (rest.endsWith_encode h.2).map fun r hr => ?_
      simp only [List.length_append, List.length_cons, Entries.size]
      omega

end

/-! ## Field lists -/

/-- **The first value with a fault stops the writer of a field list**, whatever bits are waiting. -/
theorem fault_writeFieldsAfter {values : List Value} (h : ∀ v ∈ values, v.LongFits)
    (pending : PendingBits) : (writeFieldsAfter pending values).fault
      = shortFault (values.flatMap Value.shortTexts) := by
  induction values generalizing pending with
  | nil => rfl
  | cons value values ih =>
    rw [List.forall_mem_cons] at h
    rw [List.flatMap_cons, shortFault_append]
    by_cases hbit : value.primitive = .bit
    · obtain ⟨b, rfl⟩ := value.exists_eq_bit hbit
      rw [writeFieldsAfter]
      split
      · exact ih h.2 _
      · exact ih h.2 _
    · have hvalue := value.endsWith_encode h.1
      rw [writeFieldsAfter_cons hbit]
      generalize shortFault value.shortTexts = fault, value.encode = x at hvalue
      cases hvalue with
      | ok => exact ih h.2 _
      | error cause => rfl

end FrameSchema.Wire
