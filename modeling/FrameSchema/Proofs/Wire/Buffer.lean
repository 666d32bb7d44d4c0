import FrameSchema.Proofs.Wire.EncodingOutcome
import FrameSchema.Proofs.Wire.FieldListCut
import FrameSchema.Proofs.Wire.FlagLayout

/-!
# Proofs/Wire/Buffer — what a writer leaves in the buffer it works on

`Buffered` writes as it goes: octet by octet into a buffer, which keeps what it was given when a
later step fails; only the entries of a table are put together apart.  Whatever the buffer holds,
the writer appends to it what `writeFields` or `writeOptionalFields` gives, and fails with the same
fault (`Appends`).  A value that cannot be written leaves nothing, so behind a failure stand the
octets of the values in front of it, and no others.
-/

namespace FrameSchema.Wire

/-! ## Writing into a buffer -/

namespace Buffered

/-- A writing operation: it works on a buffer, and what it has put there stays when it fails. -/
abbrev Write := EStateM Error Octets

/-- Puts octets behind those in the buffer. -/
def put (octets : Octets) : Write Unit := fun buffer => .ok () (buffer ++ octets)

/-- The octets that an operation puts into a buffer of its own; this one is left alone. -/
def apart (write : Write Unit) : Write Octets := fun buffer =>
  match write [] with
  | .ok () octets => .ok octets buffer
  | .error fault _ => .error fault buffer

/-- A text behind a one-octet length. -/
def shortString (s : String) : Write Unit := do
  let text := Octets.ofText s
  if text.length < 256 then
    put (Octets.bigEndian 1 text.length)
    put text
  else
    throw (.shortStringTooLong text.length)

/-- Octets behind a four-octet length. -/
def long (tooLong : Nat → Error) (body : Octets) : Write Unit := do
  if body.length < UInt32.size then
    put (Octets.bigEndian 4 body.length)
    put body
  else
    throw (tooLong body.length)

mutual

/-- A value standing alone. -/
def value : Value → Write Unit
  | .octet v => put (Octets.bigEndian 1 v.toNat)
  | .short v => put (Octets.bigEndian 2 v.toNat)
  | .long v => put (Octets.bigEndian 4 v.toNat)
  | .longlong v | .timestamp v => put (Octets.bigEndian 8 v.toNat)
  | .bit v => put (Octets.bigEndian 1 v.toNat)
  | .shortstr s => shortString s
  | .longstr s => long .longStringTooLong (Octets.ofText s)
  | .table t => do long .tableTooLong (← apart (entries t))

/-- Table entries, one after another: key, tag, value. -/
def entries : {floor : Option String} → Entries floor → Write Unit
  | _, .nil => return
  | _, .cons key _ v rest => do
    shortString key
    put [v.primitive.tag]
    value v
    entries rest

end

/-- Fields behind waiting bits. -/
def fieldsAfter : PendingBits → List Value → Write Unit
  | pending, [] => put pending.flush
  | pending, .bit b :: rest => do
    if pending.count = 8 then
      put pending.flush
      fieldsAfter (PendingBits.none.push b) rest
    else
      fieldsAfter (pending.push b) rest
  | pending, v :: rest => do
    put pending.flush
    value v
    fieldsAfter .none rest

/-- A field list. -/
def fields (values : List Value) : Write Unit := fieldsAfter .none values

/-- An optional field list: its flag words, and then the present values. -/
def optionalFields (values : List (Option Value)) : Write Unit := do
  (flagWords (values.map Option.isSome)).forM fun word => put (Octets.bigEndian 2 word.toNat)
  (values.filterMap id).forM value

end Buffered

/-! ## What is appended -/

namespace Written

/-- The state in which a buffer is left. -/
def onto : Written → Octets → EStateM.Result Error Octets Unit
  | ⟨octets, none⟩, buffer => .ok () (buffer ++ octets)
  | ⟨octets, some fault⟩, buffer => .error fault (buffer ++ octets)

/-- All octets, or none. -/
def ofExcept : Except Error Octets → Written
  | .ok octets => complete octets
  | .error fault => stopped [] fault

@[simp] theorem toExcept_complete (octets : Octets) :
    (complete octets).toExcept = pure octets := rfl

/-- What comes as a whole has one outcome. -/
@[simp] theorem toExcept_ofExcept : ∀ outcome : Except Error Octets,
    (ofExcept outcome).toExcept = outcome
  | .ok _ => rfl
  | .error _ => rfl

/-- Two writers come to an end exactly if both do. -/
@[simp] theorem toExcept_andThen (u w : Written) : (u.andThen w).toExcept = (do
    let s ← u.toExcept
    let t ← w.toExcept
    return s ++ t) := by
  obtain ⟨s, fault⟩ := u
  obtain ⟨t, fault'⟩ := w
  cases fault <;> cases fault' <;> rfl

@[simp] theorem toExcept_after (octets : Octets) (w : Written) :
    (w.after octets).toExcept = (octets ++ ·) <$> w.toExcept := by
  obtain ⟨s, fault⟩ := w
  cases fault <;> rfl

end Written

/-- A field that is no bit stands behind the octet of the waiting bits. -/
theorem writeFieldsAfter_cons_eq_andThen {pending : PendingBits} {v : Value} {rest : List Value}
    (h : v.primitive ≠ .bit) : writeFieldsAfter pending (v :: rest) =
      (Written.complete pending.flush).andThen
        ((Written.ofExcept v.encode).andThen (writeFieldsAfter .none rest)) := by
  rw [writeFieldsAfter_cons h]
  cases v.encode with
  | ok octets => simp [Written.ofExcept]
  | error fault => simp [Written.ofExcept]

/-- Behind a value stand those that follow it. -/
theorem writeValues_cons_eq_andThen (v : Value) (rest : List Value) :
    writeValues (v :: rest) = (Written.ofExcept v.encode).andThen (writeValues rest) := by
  rw [writeValues]
  cases v.encode <;> rfl

/-- **The operation appends to every buffer the same octets, with the same outcome.** -/
def Appends (write : Buffered.Write Unit) (written : Written) : Prop :=
  ∀ buffer, write buffer = written.onto buffer

namespace Appends

variable {x y : Buffered.Write Unit} {u w : Written}

theorem put (octets : Octets) : Appends (Buffered.put octets) (.complete octets) := by
  intro buffer
  rfl

theorem pure : Appends (Pure.pure ()) (.complete []) := by
  intro buffer
  exact congrArg (EStateM.Result.ok ()) (List.append_nil buffer).symm

theorem throw (fault : Error) : Appends (throw fault) (.stopped [] fault) := by
  intro buffer
  exact congrArg (EStateM.Result.error fault) (List.append_nil buffer).symm

/-- One writer works behind another, unless that was stopped. -/
theorem bind (hx : Appends x u) (hy : Appends y w) : Appends (x >>= fun _ => y) (u.andThen w) := by
  intro buffer
  obtain ⟨s, fault⟩ := u
  cases fault with
  | none =>
    rw [bind_of_ok (hx buffer), hy]
    obtain ⟨t, fault⟩ := w
    cases fault <;> simp [Written.onto, Written.andThen, Written.after]
  | some fault => exact bind_of_error (hx buffer)

/-- A writer that works apart gives its octets, or its fault, and leaves the buffer alone. -/
theorem apart_eq (hx : Appends x u) (buffer : Octets) :
    Buffered.apart x buffer = match u.toExcept with
      | .ok octets => .ok octets buffer
      | .error fault => .error fault buffer := by
  rw [Buffered.apart, hx]
  obtain ⟨octets, fault⟩ := u
  cases fault <;> rfl

end Appends

/-- A short text is appended as a whole, or refused before anything of it is. -/
theorem appends_shortString (s : String) :
    Appends (Buffered.shortString s) (.ofExcept (encodeShortString s)) := by
  rw [Buffered.shortString, encodeShortString]
  split
  · exact (Appends.put _).bind (.put _)
  · exact .throw _

/-- Octets are appended behind their length, or refused before anything of them is. -/
theorem appends_long (tooLong : Nat → Error) (body : Octets) :
    Appends (Buffered.long tooLong body) (.ofExcept (encodeLong tooLong body)) := by
  rw [Buffered.long, encodeLong]
  split
  · exact (Appends.put _).bind (.put _)
  · exact .throw _

mutual

/-- **A value is appended as a whole, or nothing of it is.** -/
theorem appends_value : ∀ v : Value, Appends (Buffered.value v) (.ofExcept v.encode)
  | .octet _ | .short _ | .long _ | .longlong _ | .timestamp _ | .bit _ => .put _
  | .shortstr s => appends_shortString s
  | .longstr s => appends_long _ _
  | .table t => by
      obtain ⟨w, hw, hencode⟩ := exists_appends_entries t
      intro buffer
      have hbody := hw.apart_eq buffer
      rw [hencode] at hbody
      rw [Buffered.value, Value.encode]
      cases h : t.encode with
      | ok body =>
        rw [h] at hbody
        rw [bind_of_ok hbody]
        exact appends_long _ body buffer
      | error fault =>
        rw [h] at hbody
        rw [bind_of_error hbody]
        exact congrArg (EStateM.Result.error fault) (List.append_nil buffer).symm

/-- Entries may be stopped half-way, but they have the outcome of their encoding. -/
theorem exists_appends_entries : ∀ {floor : Option String} (t : Entries floor),
    ∃ w, Appends (Buffered.entries t) w ∧ w.toExcept = t.encode
  | _, .nil => ⟨_, .pure, rfl⟩
  | _, .cons key _ v rest => by
      obtain ⟨w, hw, hencode⟩ := exists_appends_entries rest
      refine ⟨_, (appends_shortString key).bind ((Appends.put [v.primitive.tag]).bind
        ((appends_value v).bind hw)), ?_⟩
      simp [hencode, Entries.encode]

end

/-- **A field list is appended as far as `writeFieldsAfter` tells**, whatever bits are waiting. -/
theorem appends_fieldsAfter (values : List Value) : ∀ pending : PendingBits,
    Appends (Buffered.fieldsAfter pending values) (writeFieldsAfter pending values) := by
  induction values with
  | nil =>
    intro pending
    exact .put _
  | cons v rest ih =>
    intro pending
    by_cases hbit : v.primitive = .bit
    · obtain ⟨b, rfl⟩ := v.exists_eq_bit hbit
      rw [Buffered.fieldsAfter, writeFieldsAfter]
      split
      · exact (Appends.put _).bind (ih _)
      · exact ih _
    · have hstep : Buffered.fieldsAfter pending (v :: rest) = (do
          Buffered.put pending.flush
          Buffered.value v
          Buffered.fieldsAfter .none rest) := by
        cases v with
        | bit b => exact absurd rfl hbit
        | _ => rfl
      rw [hstep, writeFieldsAfter_cons_eq_andThen hbit]
      exact (Appends.put pending.flush).bind ((appends_value v).bind (ih .none))

/-- Flag words cannot be refused. -/
theorem appends_flagWords (words : List UInt16) :
    Appends (words.forM fun word => Buffered.put (Octets.bigEndian 2 word.toNat))
      (.complete (flagOctets words)) := by
  induction words with
  | nil => exact .pure
  | cons word words ih => exact (Appends.put _).bind ih

theorem appends_values (values : List Value) :
    Appends (values.forM Buffered.value) (writeValues values) := by
  induction values with
  | nil => exact .pure
  | cons v values ih =>
    rw [writeValues_cons_eq_andThen]
    exact (appends_value v).bind ih

/-- **An optional field list is appended as far as `writeOptionalFields` tells.** -/
theorem appends_optionalFields (values : List (Option Value)) :
    Appends (Buffered.optionalFields values) (writeOptionalFields values) :=
  (appends_flagWords _).bind (appends_values _)

namespace EndsWith

variable {size : Nat} {x : Except Error Octets}

theorem eq_error {cause : Error} (h : EndsWith size (some cause) x) : x = .error cause := by
  cases h
  rfl

theorem exists_eq_ok (h : EndsWith size none x) : ∃ octets, x = .ok octets := by
  cases h with
  | ok => exact ⟨_, rfl⟩

end EndsWith

/-! ## Which value stops a writer -/

namespace Value

/-- A text that stands behind a length of one octet, the value itself or one in a table at any
depth, is too long for it. -/
def Overlong (v : Value) : Prop := ∃ s ∈ v.shortTexts, 255 < s.utf8ByteSize

instance (v : Value) : Decidable v.Overlong :=
  inferInstanceAs (Decidable (∃ s ∈ v.shortTexts, 255 < s.utf8ByteSize))

/-- The first text that is too long for a length of one octet has `n` octets. -/
def FirstOverlong (v : Value) (n : Nat) : Prop :=
  ∃ front s back, v.shortTexts = front ++ s :: back ∧ (∀ t ∈ front, t.utf8ByteSize ≤ 255) ∧
    255 < s.utf8ByteSize ∧ s.utf8ByteSize = n

/-- No text is too long exactly if none has a fault. -/
theorem not_overlong_iff {v : Value} : ¬v.Overlong ↔ shortFault v.shortTexts = none := by
  rw [shortFault_eq_none_iff, Overlong]
  push Not
  rfl

/-- What cannot be written is refused for its first text that is too long. -/
theorem Overlong.exists_encode {v : Value} (h : v.Overlong) (hfits : v.LongFits) :
    ∃ n, v.FirstOverlong n ∧ v.encode = .error (.shortStringTooLong n) := by
  obtain ⟨fault, hfault⟩ := Option.ne_none_iff_exists'.1 (not_overlong_iff.not_right.1 h)
  obtain ⟨s, hs, rfl⟩ := Option.map_eq_some_iff.1 hfault
  obtain ⟨hlong, front, back, htexts, hfront⟩ := List.find?_eq_some_iff_append.1 hs
  refine ⟨s.utf8ByteSize, ⟨front, s, back, htexts, ?_, by simpa using hlong, rfl⟩, ?_⟩
  · intro t ht
    simpa using hfront t ht
  · exact (hfault ▸ v.endsWith_encode hfits).eq_error

/-- What has no text that is too long can be written. -/
theorem exists_encode_of_not_overlong {v : Value} (h : ¬v.Overlong) (hfits : v.LongFits) :
    ∃ octets, v.encode = .ok octets :=
  (not_overlong_iff.1 h ▸ v.endsWith_encode hfits).exists_eq_ok

end Value

/-- The texts of some values have a fault exactly if those of one value do. -/
theorem shortFault_flatMap_ne_none_iff {values : List Value} :
    shortFault (values.flatMap Value.shortTexts) ≠ none ↔ ∃ v ∈ values, v.Overlong := by
  rw [ne_eq, shortFault_eq_none_iff]
  push Not
  simp only [List.mem_flatMap, Value.Overlong]
  tauto

/-- **The first value with a fault stops the writer of present values.** -/
theorem fault_writeValues {values : List Value} (h : ∀ v ∈ values, v.LongFits) :
    (writeValues values).fault = shortFault (values.flatMap Value.shortTexts) := by
  induction values with
  | nil => rfl
  | cons v values ih =>
    rw [List.forall_mem_cons] at h
    rw [List.flatMap_cons, shortFault_append, writeValues]
    have hv := v.endsWith_encode h.1
    generalize shortFault v.shortTexts = fault, v.encode = x at hv
    cases hv with
    | ok => exact ih h.2
    | error cause => rfl

section Stopped

variable {values front back : List Value} {v : Value}

/-- What stands in front of the first value that is too long is written as a list of its own, and
nothing else is. -/
theorem writeFields_stopped (hfits : ∀ u ∈ front ++ v :: back, u.LongFits)
    (hfront : ∀ u ∈ front, ¬u.Overlong) (hv : v.Overlong) :
    ∃ octets n, writeFields front = .complete octets ∧ v.FirstOverlong n ∧
      writeFields (front ++ v :: back) = .stopped octets (.shortStringTooLong n) := by
  obtain ⟨hfitsFront, hfitsBack⟩ := List.forall_mem_append.1 hfits
  obtain ⟨n, hfirst, hencode⟩ := hv.exists_encode (hfitsBack v List.mem_cons_self)
  have hnone : (writeFields front).fault = none := by
    rw [writeFields, fault_writeFieldsAfter hfitsFront, ← not_ne_iff,
      shortFault_flatMap_ne_none_iff]
    push Not
    exact hfront
  obtain ⟨octets, hcomplete⟩ : ∃ octets, writeFields front = .complete octets :=
    ⟨_, congrArg (Written.mk _) hnone⟩
  have hbit : v.primitive ≠ .bit := by
    intro hbit
    obtain ⟨b, rfl⟩ := v.exists_eq_bit hbit
    obtain ⟨s, hs, -⟩ := hv
    cases hs
  have hstop : writeFields (v :: back) = .stopped [] (.shortStringTooLong n) := by
    rw [writeFields, writeFieldsAfter_cons hbit, hencode]
    rfl
  refine ⟨octets, n, hcomplete, hfirst, ?_⟩
  calc writeFields (front ++ v :: back)
      = (writeFields front).andThen (writeFields (v :: back)) :=
        writeFieldsAfter_append_cons hbit back front .none
    _ = .stopped octets (.shortStringTooLong n) := by simp [hcomplete, hstop]

/-- Values that can be written are appended one after another. -/
theorem exists_writeValues_append (hfits : ∀ u ∈ front, u.LongFits)
    (hfront : ∀ u ∈ front, ¬u.Overlong) : ∃ parts : List Octets,
      List.Forall₂ (fun u part => u.encode = .ok part) front parts ∧
        writeValues (front ++ back) = .after parts.flatten (writeValues back) := by
  induction front with
  | nil => exact ⟨[], .nil, rfl⟩
  | cons u front ih =>
    rw [List.forall_mem_cons] at hfits hfront
    obtain ⟨part, hpart⟩ := Value.exists_encode_of_not_overlong hfront.1 hfits.1
    obtain ⟨parts, hparts, hwritten⟩ := ih hfits.2 hfront.2
    refine ⟨part :: parts, .cons hpart hparts, ?_⟩
    simp [writeValues, hpart, hwritten]

/-- In front of the first value that is too long all values are written, and nothing else is. -/
theorem writeValues_stopped (hfits : ∀ u ∈ front ++ v :: back, u.LongFits)
    (hfront : ∀ u ∈ front, ¬u.Overlong) (hv : v.Overlong) :
    ∃ (parts : List Octets) (n : Nat),
      List.Forall₂ (fun u part => u.encode = .ok part) front parts ∧ v.FirstOverlong n ∧
        writeValues (front ++ v :: back) = .stopped parts.flatten (.shortStringTooLong n) := by
  obtain ⟨hfitsFront, hfitsBack⟩ := List.forall_mem_append.1 hfits
  obtain ⟨n, hfirst, hencode⟩ := hv.exists_encode (hfitsBack v List.mem_cons_self)
  obtain ⟨parts, hparts, hwritten⟩ := exists_writeValues_append hfitsFront hfront
  refine ⟨parts, n, hparts, hfirst, ?_⟩
  rw [hwritten, writeValues, hencode]
  simp

end Stopped

/-- **What a failed write leaves in the buffer.**  A writer appends to what the buffer holds, and
neither what it appends nor its outcome depends on that.  It fails exactly if a value holds a text
that is too long for a length of one octet.  Then it has appended what stands in front of the first
such value, as a list of its own, and names the size of the first such text; the flag words of an
optional field list are there as a whole. -/
theorem writers_append :
    (∀ values : List Value,
      Appends (Buffered.fields values) (writeFields values) ∧
      ((∀ v ∈ values, v.LongFits) →
        ((writeFields values).fault ≠ none ↔ ∃ v ∈ values, v.Overlong) ∧
        ∀ front v back, values = front ++ v :: back → (∀ u ∈ front, ¬u.Overlong) → v.Overlong →
          ∃ octets n, writeFields front = .complete octets ∧ v.FirstOverlong n ∧
            writeFields values = .stopped octets (.shortStringTooLong n))) ∧
    ∀ values : List (Option Value),
      Appends (Buffered.optionalFields values) (writeOptionalFields values) ∧
      ((∀ v, some v ∈ values → v.LongFits) →
        ((writeOptionalFields values).fault ≠ none ↔ ∃ v, some v ∈ values ∧ v.Overlong) ∧
        ∀ front v back, values = front ++ some v :: back → (∀ u, some u ∈ front → ¬u.Overlong) →
          v.Overlong → ∃ words parts n, FlagLayout (values.map Option.isSome) words ∧
            List.Forall₂ (fun u part => u.encode = .ok part) (front.filterMap id) parts ∧
            v.FirstOverlong n ∧ writeOptionalFields values =
              .stopped (flagOctets words ++ parts.flatten) (.shortStringTooLong n)) := by
  constructor
  · intro values
    refine ⟨appends_fieldsAfter values .none, fun hfits => ⟨?_, ?_⟩⟩
    · rw [writeFields, fault_writeFieldsAfter hfits, shortFault_flatMap_ne_none_iff]
    · rintro front v back rfl hfront hv
      exact writeFields_stopped hfits hfront hv
  · intro values
    refine ⟨appends_optionalFields values, fun hfits => ⟨?_, ?_⟩⟩
    · have hpresent : ∀ v ∈ values.filterMap id, v.LongFits := by simpa using hfits
      change (writeValues (values.filterMap id)).fault ≠ none ↔ _
      rw [fault_writeValues hpresent, shortFault_flatMap_ne_none_iff]
      simp
    · rintro front v back rfl hfront hv
      have hvalues : (front ++ some v :: back).filterMap id
          = front.filterMap id ++ v :: back.filterMap id := by simp
      have hpresent : ∀ u ∈ front.filterMap id ++ v :: back.filterMap id, u.LongFits := by
        rw [← hvalues]
        simpa using hfits
      obtain ⟨parts, n, hparts, hfirst, hwritten⟩ :=
        writeValues_stopped hpresent (by simpa using hfront) hv
      refine ⟨_, parts, n, flagLayout_flagWords _, hparts, hfirst, ?_⟩
      rw [writeOptionalFields, hvalues, hwritten]
      rfl

/-- Behind a table that cannot be written stand the octets in front of it, the last of them for a
bit that was waiting. -/
theorem append_in_front_of_table :
    let long := String.ofList (List.replicate 256 'a')
    let inner := Table.ofList [(long, .bit true)]
    let table := Value.table (Table.ofList [("z", .octet 1), ("k", .table inner)])
    ∃ n, table.FirstOverlong n ∧
      Buffered.fields [.bit true, .octet 7, .bit false, .bit true, table, .bit true] [206] =
        .error (.shortStringTooLong n) [206, 1, 7, 2] := by
  intro long inner table
  obtain ⟨happends, hall⟩ :=
    writers_append.1 [.bit true, .octet 7, .bit false, .bit true, table, .bit true]
  obtain ⟨-, hstops⟩ := hall (by decide +kernel)
  obtain ⟨octets, n, hoctets, hfirst, hstopped⟩ :=
    hstops [.bit true, .octet 7, .bit false, .bit true] table [.bit true] rfl (by decide +kernel)
      (by decide +kernel)
  obtain rfl : [1, 7, 2] = octets := (Written.mk.inj hoctets).1
  refine ⟨n, hfirst, ?_⟩
  rw [happends, hstopped]
  rfl

end FrameSchema.Wire
