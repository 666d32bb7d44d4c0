import FrameSchema.Proofs.Codec.RoundTrip
import FrameSchema.Proofs.Schema.Acceptance
import FrameSchema.Proofs.Wire.EncodingOutcome

/-!
# Proofs/Codec/EncodeOutcome — what becomes of a method that is to be encoded

Before an octet is written each field is looked at, in order; the first that refuses what is given
for it, or misses it, decides (`Codec.Refuses`).  Then only a text can be too long.  A default
cannot: what fits a kind can be written (`Schema.Default.shortFault_value`), so the texts of the
given values decide alone (`Codec.shortFault_sent`).  Keys that are no field's are never asked for.
-/

namespace FrameSchema

/-! ## Defaults -/

/-- **A default that fits can be written**: it has no text that is too long. -/
theorem Schema.Default.shortFault_value {d : Schema.Default} {p : Primitive} (h : d.fits p) :
    Wire.shortFault (d.value p).shortTexts = none := by
  cases Schema.Default.suits_of_fits h with
  | shortstr hlength => exact Wire.shortFault_eq_none_iff.2 fun s hs =>
      List.mem_singleton.1 hs ▸ hlength
  | _ => rfl

/-- The defaults of a method's fields fit their kinds. -/
theorem Schema.fits_of_mem_default {schema : Schema} {m : Layout.Method}
    (hm : m ∈ schema.methodLayouts) {f : Layout.Field} (hf : f ∈ m.fields) {d : Schema.Default}
    (hd : d ∈ f.default) : d.fits f.primitive := by
  obtain ⟨c, hc, method, hmethod, rfl⟩ := Schema.mem_methodLayouts.1 hm
  obtain ⟨a, ha, rfl⟩ := List.mem_map.1 hf
  obtain ⟨p, hp, hfits⟩ := schema.wellFormed.arguments c hc method hmethod a ha
  rw [Layout.Field.settled, hp]
  exact hfits d hd

namespace Codec

variable {m : Layout.Method} {args : Arguments}

/-! ## Fields that refuse -/

/-- **Why a field refuses the arguments**: there is none for it and no default, or one of another
kind. -/
inductive Refuses (m : Layout.Method) (args : Arguments) (f : Layout.Field) : Error → Prop where
  | missing (hgiven : args.get? f.key = none) (hdefault : f.default = none) :
      Refuses m args f (.missingArgument (m.displayName ++ "." ++ f.key))
  | mismatch {value : Wire.Value} (hgiven : args.get? f.key = some value)
      (hkind : value.primitive ≠ f.primitive) :
      Refuses m args f (.typeMismatch f.key f.primitive value.primitive)

theorem fieldValue_eq_error_iff {f : Layout.Field} {cause : Error} :
    fieldValue m args f = .error cause ↔ Refuses m args f cause := by
  constructor
  · intro h
    rw [fieldValue] at h
    cases hgiven : args.get? f.key with
    | some value =>
      simp only [hgiven, checkKind] at h
      split at h
      case isTrue => cases h
      case isFalse hkind =>
        obtain rfl := Except.error.inj h
        exact .mismatch hgiven hkind
    | none =>
      cases hdefault : f.default with
      | some d =>
        simp only [hgiven, hdefault] at h
        cases h
      | none =>
        simp only [hgiven, hdefault] at h
        obtain rfl := Except.error.inj h
        exact .missing hgiven hdefault
  · rintro (⟨hgiven, hdefault⟩ | ⟨hgiven, hkind⟩)
    · rw [fieldValue, hgiven, hdefault]
    · rw [fieldValue, hgiven]
      exact if_neg hkind

/-- A field has a value exactly if it does not refuse. -/
theorem exists_fieldValue_iff {f : Layout.Field} :
    (∃ v, fieldValue m args f = .ok v) ↔ ∀ cause, ¬Refuses m args f cause := by
  simp only [← fieldValue_eq_error_iff]
  cases fieldValue m args f with
  | ok v => simp
  | error cause => simp

/-- Where no field refuses, there is a value for each. -/
theorem exists_values (h : ∀ f ∈ m.fields, ∀ cause, ¬Refuses m args f cause) :
    ∃ values, List.Forall₂ (fun f v => fieldValue m args f = .ok v) m.fields values := by
  cases hvalues : m.fields.mapM (fieldValue m args) with
  | ok values => exact ⟨values, mapM_eq_ok_iff.1 hvalues⟩
  | error cause =>
    obtain ⟨front, f, back, hfields, -, hf⟩ := mapM_eq_error_iff.1 hvalues
    have hmem : f ∈ m.fields := hfields ▸ List.mem_append_right _ List.mem_cons_self
    exact absurd (fieldValue_eq_error_iff.1 hf) (h f hmem cause)

/-- **The first field that refuses decides**, and nothing is written. -/
theorem encodeLayout_of_refuses {front back : List Layout.Field} {f : Layout.Field} {cause : Error}
    (hfields : m.fields = front ++ f :: back)
    (hfront : ∀ g ∈ front, ∀ cause, ¬Refuses m args g cause) (hf : Refuses m args f cause) :
    encodeLayout m args = .error cause := by
  have hvalues : m.fields.mapM (fieldValue m args) = .error cause :=
    mapM_eq_error_iff.2 ⟨front, f, back, hfields,
      fun g hg => exists_fieldValue_iff.2 (hfront g hg), fieldValue_eq_error_iff.2 hf⟩
  rw [encodeLayout, hvalues]
  rfl

/-! ## Texts that are too long -/

/-- The texts with a length of one octet in the values given for the fields, in their order. -/
def givenTexts (fields : List Layout.Field) (args : Arguments) : List String :=
  (fields.filterMap fun f => args.get? f.key).flatMap Wire.Value.shortTexts

/-- A value that is given for a field has, at any depth, a text that is too long for its length. -/
def Overlong (m : Layout.Method) (args : Arguments) : Prop :=
  ∃ f ∈ m.fields, ∃ value ∈ args.get? f.key, ∃ s ∈ value.shortTexts, 255 < s.utf8ByteSize

/-- A text is too long exactly if the texts of the given values have a fault. -/
theorem overlong_iff : Overlong m args ↔ Wire.shortFault (givenTexts m.fields args) ≠ none := by
  rw [Ne, Wire.shortFault_eq_none_iff]
  simp only [Overlong, givenTexts, List.mem_flatMap, List.mem_filterMap, not_forall, Nat.not_le,
    exists_prop]
  constructor
  · rintro ⟨f, hf, value, hvalue, s, hs, hlong⟩
    exact ⟨s, ⟨value, ⟨f, hf, hvalue⟩, hs⟩, hlong⟩
  · rintro ⟨s, ⟨value, ⟨f, hf, hvalue⟩, hs⟩, hlong⟩
    exact ⟨f, hf, value, hvalue, s, hs, hlong⟩

/-- **The given values decide alone**: a field that is left to its default has no fault. -/
theorem shortFault_sent {fields : List Layout.Field} {values : List Wire.Value}
    (h : List.Forall₂ (fun f v => fieldValue m args f = .ok v) fields values)
    (hfits : ∀ f ∈ fields, ∀ d ∈ f.default, d.fits f.primitive) :
    Wire.shortFault (values.flatMap Wire.Value.shortTexts)
      = Wire.shortFault (givenTexts fields args) := by
  induction h with
  | nil => rfl
  | @cons f v fields values hv _ ih =>
    obtain ⟨hf, hfields⟩ := List.forall_mem_cons.1 hfits
    rw [List.flatMap_cons, Wire.shortFault_append, ih hfields]
    rcases Option.or_eq_some_iff.1 (fieldValue_eq_ok_iff.1 hv).1 with hgiven | ⟨hnone, hdefault⟩
    · simp only [givenTexts, List.filterMap_cons, hgiven, List.flatMap_cons, Wire.shortFault_append]
    · obtain ⟨d, hd, rfl⟩ := Option.map_eq_some_iff.1 hdefault
      rw [Schema.Default.shortFault_value (hf d hd), Option.none_or]
      simp only [givenTexts, List.filterMap_cons, hnone]

/-- No field refuses what is given for it, and lengths of four octets suffice for the given values
and for the defaults. -/
structure Accepts (m : Layout.Method) (args : Arguments) : Prop where
  fields : ∀ f ∈ m.fields, ∀ cause, ¬Refuses m args f cause
  given : ∀ f ∈ m.fields, ∀ value ∈ args.get? f.key, value.LongFits
  defaults : ∀ f ∈ m.fields, ∀ d ∈ f.default, (d.value f.primitive).LongFits

/-- What is sent for a field was given for it or is its default, so lengths of four octets suffice
for it. -/
theorem Accepts.longFits_of_fieldValue (h : Accepts m args) {f : Layout.Field} (hf : f ∈ m.fields)
    {v : Wire.Value} (hv : fieldValue m args f = .ok v) : v.LongFits := by
  rcases Option.or_eq_some_iff.1 (fieldValue_eq_ok_iff.1 hv).1 with hgiven | ⟨-, hdefault⟩
  · exact h.given f hf v hgiven
  · obtain ⟨d, hd, rfl⟩ := Option.map_eq_some_iff.1 hdefault
    exact h.defaults f hf d hd

/-- **Where no field refuses, the frame is written or has a text that is too long**, the first of
those that were given. -/
theorem Accepts.outcome {schema : Schema} (hm : m ∈ schema.methodLayouts) (h : Accepts m args) :
    (Wire.shortFault (givenTexts m.fields args) = none ∧
      ∃ octets, encodeLayout m args = .ok octets) ∨
    ∃ n, Wire.shortFault (givenTexts m.fields args) = some (.shortStringTooLong n) ∧
      encodeLayout m args = .error (.wire (.shortStringTooLong n)) := by
  obtain ⟨values, hvalues⟩ := exists_values h.fields
  have hlong : ∀ v ∈ values, v.LongFits := by
    intro v hv
    obtain ⟨f, hpair⟩ := exists_mem_zip_right hvalues.length_eq hv
    exact h.longFits_of_fieldValue (List.of_mem_zip hpair).1 (List.forall₂_zip hvalues hpair)
  have hfault : (Wire.writeFields values).fault = Wire.shortFault (givenTexts m.fields args) := by
    rw [← shortFault_sent hvalues fun f hf d hd => Schema.fits_of_mem_default hm hf hd]
    exact Wire.fault_writeFieldsAfter hlong .none
  rw [encodeLayout_of_values (mapM_eq_ok_iff.2 hvalues)]
  generalize Wire.writeFields values = written at hfault ⊢
  obtain ⟨octets, fault⟩ := written
  cases fault with
  | none => exact .inl ⟨hfault.symm, _, rfl⟩
  | some cause =>
    obtain ⟨s, -, -, rfl⟩ := Wire.exists_of_shortFault_eq_some hfault.symm
    exact .inr ⟨_, hfault.symm, rfl⟩

/-! ## Keys that are no field's -/

/-- **Only the keys of the fields matter.** -/
theorem encodeLayout_congr {args' : Arguments}
    (h : ∀ f ∈ m.fields, args.get? f.key = args'.get? f.key) :
    encodeLayout m args = encodeLayout m args' := by
  have hvalues : m.fields.mapM (fieldValue m args) = m.fields.mapM (fieldValue m args') := by
    refine mapM_congr fun f hf => ?_
    rw [fieldValue, fieldValue, h f hf]
  rw [encodeLayout, encodeLayout, hvalues]

/-! ## Every schema -/

/-- **The outcome of encoding a method.**  The first field that refuses decides; if none does, and
lengths of four octets suffice, then the first text that is too long decides among those given for
the fields, and if there is none the frame is written. -/
structure Outcome (m : Layout.Method) (args : Arguments) (result : Except Error Octets) : Prop where
  refused : ∀ front f back cause, m.fields = front ++ f :: back →
    (∀ g ∈ front, ∀ cause, ¬Refuses m args g cause) → Refuses m args f cause →
    result = .error cause
  tooLong : Accepts m args →
    ((∃ n, result = .error (.wire (.shortStringTooLong n))) ↔ Overlong m args)
  written : Accepts m args → ((∃ octets, result = .ok octets) ↔ ¬Overlong m args)
  first : Accepts m args → ∀ cause, Wire.shortFault (givenTexts m.fields args) = some cause →
    result = .error (.wire cause)

theorem outcome_encodeLayout {schema : Schema} (hm : m ∈ schema.methodLayouts)
    (args : Arguments) : Outcome m args (encodeLayout m args) where
  refused _ _ _ _ hfields hfront hf := encodeLayout_of_refuses hfields hfront hf
  tooLong h := by
    rw [overlong_iff]
    rcases h.outcome hm with ⟨hnone, octets, hok⟩ | ⟨n, hsome, herror⟩
    · simp [hnone, hok]
    · simp [hsome, herror]
  written h := by
    rw [overlong_iff]
    rcases h.outcome hm with ⟨hnone, octets, hok⟩ | ⟨n, hsome, herror⟩
    · simp [hnone, hok]
    · simp [hsome, herror]
  first h cause hcause := by
    rcases h.outcome hm with ⟨hnone, -⟩ | ⟨n, hsome, herror⟩
    · rw [hnone] at hcause
      cases hcause
    · obtain rfl := Option.some.inj (hsome.symm.trans hcause)
      exact herror

/-- A layout that was found is never called unknown. -/
theorem encodeLayout_ne_unknown (m : Layout.Method) (args : Arguments) (name : String) :
    encodeLayout m args ≠ .error (.unknownMethodName name) := by
  intro h
  cases hvalues : m.fields.mapM (fieldValue m args) with
  | error cause =>
    obtain ⟨_, f, _, -, -, hf⟩ := mapM_eq_error_iff.1 hvalues
    rw [encodeLayout, hvalues] at h
    obtain rfl := Except.error.inj h
    cases fieldValue_eq_error_iff.1 hf
  | ok values =>
    rw [encodeLayout_of_values hvalues] at h
    split at h
    · cases h
    · cases h

/-- A name is unknown exactly if no method has it. -/
theorem encodeMethod_eq_unknown_iff {schema : Schema} {name : String} {args : Arguments} :
    schema.codec.encodeMethod name args = .error (.unknownMethodName name) ↔
      ∀ m ∈ schema.methodLayouts, m.displayName ≠ name := by
  rw [encodeMethod]
  cases hfound : schema.codec.methodByName? name with
  | none => simpa [methodByName?, Schema.codec] using hfound
  | some m =>
    have hname := List.find?_some (p := fun m : Layout.Method => m.displayName == name) hfound
    have hmem : m ∈ schema.methodLayouts := List.mem_of_find?_eq_some hfound
    exact ⟨fun h => absurd h (encodeLayout_ne_unknown m args name),
      fun h => absurd (eq_of_beq hname) (h m hmem)⟩

/-- **Encoding a method has a known outcome**, whatever the name and the arguments.  A name is
unknown exactly if no method is displayed so; otherwise the fields decide, one after another, and
then the texts; and arguments that agree on the keys of the fields have the same outcome. -/
theorem encodeMethod_outcome (schema : Schema) : ∃ codec layouts,
    ofSchema schema = .ok codec ∧ Layout.methods schema.toModel = .ok layouts ∧
      (∀ name args, codec.encodeMethod name args = .error (.unknownMethodName name) ↔
        ∀ m ∈ layouts, m.displayName ≠ name) ∧
      (∀ m ∈ layouts, ∀ args, Outcome m args (codec.encodeMethod m.displayName args)) ∧
      ∀ name args args', (∀ m ∈ layouts, m.displayName = name →
          ∀ f ∈ m.fields, args.get? f.key = args'.get? f.key) →
        codec.encodeMethod name args = codec.encodeMethod name args' := by
  refine ⟨schema.codec, schema.methodLayouts, ofSchema_eq schema, schema.layoutMethods_eq,
    fun _ _ => encodeMethod_eq_unknown_iff, fun m hm args => ?_, fun name args args' h => ?_⟩
  · rw [encodeMethod_of_mem hm]
    exact outcome_encodeLayout hm args
  · by_cases hname : ∃ m ∈ schema.methodLayouts, m.displayName = name
    · obtain ⟨m, hm, rfl⟩ := hname
      rw [encodeMethod_of_mem hm, encodeMethod_of_mem hm]
      exact encodeLayout_congr (h m hm rfl)
    · push Not at hname
      rw [encodeMethod_eq_unknown_iff.2 hname, encodeMethod_eq_unknown_iff.2 hname]

/-- The layout of a request, whose first field has a default and whose second one has none. -/
def declareLayout : Layout.Method := .settled Schema.queue.toModel Schema.queueClass Schema.declare

def ticketField : Layout.Field := ⟨"ticket", .short, some (.int 0)⟩

def queueNameField : Layout.Field := ⟨"queue-name", .shortstr, none⟩

theorem accepts_declareLayout
    (hvalues : ∀ f ∈ declareLayout.fields, (fieldValue declareLayout args f).toOption.isSome)
    (hgiven : ∀ f ∈ declareLayout.fields, ∀ value ∈ args.get? f.key, value.LongFits) :
    Accepts declareLayout args := by
  refine ⟨fun f hf => exists_fieldValue_iff.1 ?_, hgiven, by decide +kernel⟩
  obtain ⟨v, hv⟩ := Option.isSome_iff_exists.1 (hvalues f hf)
  exact ⟨v, toOption_eq_some_iff.1 hv⟩

/-- A request with a table in which a text is too long by one octet. -/
def overlongArguments : Arguments := .ofList [("queueName", .shortstr "jobs"), ("arguments",
  .table (Wire.Table.ofList [("k", .shortstr (String.ofList (List.replicate 256 'a')))]))]

/-- A request with a ticket of another kind, and without the name of the queue. -/
def mistypedArguments : Arguments := .ofList [("ticket", .bit true)]

/-- The outcomes of a request under an unknown name, without the name of the queue, with a ticket of
another kind, which stands in front of that name, with a text that is too long, and in order; a key
that is no field's has no part in it. -/
theorem encodeMethod_declare : ∃ codec, ofSchema .queue = .ok codec ∧
    codec.encodeMethod "queue.delete" .empty = .error (.unknownMethodName "queue.delete") ∧
    codec.encodeMethod "queue.declare" .empty
      = .error (.missingArgument "queue.declare.queueName") ∧
    codec.encodeMethod "queue.declare" mistypedArguments
      = .error (.typeMismatch "ticket" .short .bit) ∧
    (∃ n, codec.encodeMethod "queue.declare" overlongArguments
      = .error (.wire (.shortStringTooLong n))) ∧
    (∃ octets, codec.encodeMethod "queue.declare" declareArguments = .ok octets) ∧
    codec.encodeMethod "queue.declare" declareArguments = codec.encodeMethod "queue.declare"
      (.ofList [("queueName", .shortstr "jobs"), ("durable", .bit true)]) := by
  obtain ⟨codec, layouts, hcodec, hlayouts, hunknown, houtcome, hkeys⟩ :=
    encodeMethod_outcome .queue
  obtain rfl := Except.ok.inj ((Schema.layoutMethods_eq .queue).symm.trans hlayouts)
  have hlayout : declareLayout ∈ Schema.queue.methodLayouts := Schema.mem_methodLayouts.2
    ⟨_, List.mem_cons_self, _, List.mem_cons_self, rfl⟩
  obtain ⟨back, hfields⟩ : ∃ back, declareLayout.fields = ticketField :: queueNameField :: back :=
    ⟨_, rfl⟩
  refine ⟨codec, hcodec, (hunknown _ _).2 (by decide +kernel), ?_, ?_, ?_, ?_, ?_⟩
  · have hname : declareLayout.displayName ++ "." ++ queueNameField.key
        = "queue.declare.queueName" := by decide +kernel
    rw [← hname]
    refine (houtcome _ hlayout .empty).refused [ticketField] queueNameField back _ hfields ?_
      (.missing rfl rfl)
    rintro g hg cause (⟨-, hdefault⟩ | ⟨hgiven, -⟩)
    · obtain rfl := List.mem_singleton.1 hg
      cases hdefault
    · cases hgiven
  · have hkey : ticketField.key = "ticket" := by decide +kernel
    have hgiven : mistypedArguments.get? ticketField.key = some (.bit true) := by decide +kernel
    rw [← hkey]
    exact (houtcome _ hlayout mistypedArguments).refused [] ticketField _ _ hfields (by simp)
      (.mismatch hgiven (by decide))
  · exact ((houtcome _ hlayout overlongArguments).tooLong
      (accepts_declareLayout (by decide +kernel) (by decide +kernel))).2
        (overlong_iff.2 (by decide +kernel))
  · exact ((houtcome _ hlayout declareArguments).written
      (accepts_declareLayout (by decide +kernel) (by decide +kernel))).2
        fun h => overlong_iff.1 h (by decide +kernel)
  · exact hkeys _ _ _ (by decide +kernel)

end Codec

end FrameSchema
