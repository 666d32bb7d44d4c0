import FrameSchema.Proofs.Bindings.Execution
import FrameSchema.Proofs.Bindings.Lookup
import FrameSchema.Proofs.Codec.RoundTrip

/-!
# Proofs/Bindings/Encoders — generated encoders write what the codec writes

The record of a generated encoder has its values under the identifiers of the fields, the codec has
them under their keys.  Fields of one frame differ in both, so values can be carried from one to the
other (`rekeyed`), and then the two write the same octets or fail alike.
-/

namespace FrameSchema.Bindings

variable {fields : List Layout.Field} {assigned : Assignment}

/-- The values of a record, put under the keys of their fields. -/
def rekeyed (fields : List Layout.Field) (assigned : Assignment) : Arguments :=
  Codec.keyedPresent fields (fields.map fun f => assigned.get? f.ident)

/-- The values of a record are of the kinds of their fields. -/
def OfKinds (fields : List Layout.Field) (assigned : Assignment) : Prop :=
  ∀ f ∈ fields, ∀ v ∈ assigned.get? f.ident, v.primitive = f.primitive

/-- A record leaves only fields with a default empty. -/
def Complete (fields : List Layout.Field) (assigned : Assignment) : Prop :=
  ∀ f ∈ fields, f.default = none → (assigned.get? f.ident).isSome

/-- **A value is found under the key of its field.** -/
theorem get?_rekeyed (hkeys : (fields.map (·.key)).Nodup) {f : Layout.Field} (hf : f ∈ fields) :
    (rekeyed fields assigned).get? f.key = assigned.get? f.ident := by
  have hpair : (f, assigned.get? f.ident) ∈
      fields.zip (fields.map fun f => assigned.get? f.ident) := by
    rw [← List.map_prod_left_eq_zip]
    exact List.mem_map_of_mem hf
  exact Codec.get?_keyedPresent hkeys (List.length_map ..).symm hpair

/-! ## Method frames -/

section Method

variable {schema : Schema} {m : Layout.Method}

/-- In a record that leaves no other field empty, something stands for each field. -/
theorem Complete.exists_value (h : Complete fields assigned) {f : Layout.Field} (hf : f ∈ fields) :
    ∃ v, (assigned.get? f.ident).or (f.default.map (·.value f.primitive)) = some v := by
  cases hassigned : assigned.get? f.ident with
  | some v => exact ⟨v, rfl⟩
  | none =>
    cases hdefault : f.default with
    | some d => exact ⟨d.value f.primitive, rfl⟩
    | none =>
      have hsome := h f hf hdefault
      rw [hassigned] at hsome
      cases hsome

/-- What stands for a field is of its kind. -/
theorem OfKinds.primitive_eq (h : OfKinds fields assigned) {f : Layout.Field} (hf : f ∈ fields)
    {v : Wire.Value}
    (hv : (assigned.get? f.ident).or (f.default.map (·.value f.primitive)) = some v) :
    v.primitive = f.primitive := by
  rcases Option.or_eq_some_iff.1 hv with hassigned | ⟨_, hdefault⟩
  · exact h f hf v hassigned
  · obtain ⟨d, _, rfl⟩ := Option.map_eq_some_iff.1 hdefault
    exact d.primitive_value f.primitive

/-- A field is given what is assigned to it, or its default. -/
@[simp] theorem value?_ofLayout (f : Layout.Field) : (EncodeField.ofLayout f).value? assigned
    = (assigned.get? f.ident).or (f.default.map (·.value f.primitive)) := by
  rw [EncodeField.ofLayout, EncodeField.value?]

/-- **The encoder of a method writes what the codec writes.** -/
theorem encodeLayout_rekeyed (hm : m ∈ schema.methodLayouts) (hkinds : OfKinds m.fields assigned)
    (hcomplete : Complete m.fields assigned) : ∃ outcome,
      runMethodEncoder m.classId m.methodId (m.fields.map EncodeField.ofLayout) assigned
        = some outcome ∧
      Codec.encodeLayout m (rekeyed m.fields assigned) = outcome.mapError .wire := by
  have hkeys := (Schema.methodFields_distinct hm).nodup_keys
  let given (f : Layout.Field) : Wire.Value :=
    ((assigned.get? f.ident).or (f.default.map (·.value f.primitive))).getD (.zero f.primitive)
  have hgiven : ∀ f ∈ m.fields,
      (assigned.get? f.ident).or (f.default.map (·.value f.primitive)) = some (given f) := by
    intro f hf
    obtain ⟨v, hv⟩ := hcomplete.exists_value hf
    simp only [given, hv, Option.getD_some]
  have hencoder : (m.fields.map EncodeField.ofLayout).mapM (·.value? assigned)
      = some (m.fields.map given) := by
    rw [List.mapM_map]
    exact mapM_eq_pure_map fun f hf => (value?_ofLayout f).trans (hgiven f hf)
  have hcodec : m.fields.mapM (Codec.fieldValue m (rekeyed m.fields assigned))
      = .ok (m.fields.map given) := by
    refine mapM_eq_pure_map fun f hf => Codec.fieldValue_eq_ok_iff.2 ⟨?_, ?_⟩
    · rw [get?_rekeyed hkeys hf, hgiven f hf]
    · exact hkinds.primitive_eq hf (hgiven f hf)
  rw [runMethodEncoder, hencoder, Codec.encodeLayout_of_values hcodec]
  refine ⟨_, rfl, ?_⟩
  cases (Wire.writeFields (m.fields.map given)).toExcept with
  | error cause => rfl
  | ok body => rfl

end Method

/-! ## Header frames -/

/-- **The encoder of a header writes what the codec writes.** -/
theorem encodeHeader_rekeyed {schema : Schema} {h : Layout.Header} (hmem : h ∈ schema.headerLayouts)
    (hkinds : OfKinds h.fields assigned) (bodySize : UInt64) :
    schema.codec.encodeHeader h.classId bodySize (rekeyed h.fields assigned)
      = (runHeaderEncoder h.classId (h.fields.map EncodeField.ofLayout) bodySize
          assigned).mapError .wire := by
  have hkeys := (Schema.headerFields_distinct hmem).nodup_keys
  have hcodec : h.fields.mapM (Codec.propertyValue (rekeyed h.fields assigned))
      = .ok (h.fields.map fun f => assigned.get? f.ident) := by
    refine mapM_eq_pure_map fun f hf => Codec.propertyValue_eq_ok_iff.2 ⟨?_, hkinds f hf⟩
    exact get?_rekeyed hkeys hf
  have hheader : (schema.codec.header h.classId).mapError Codec.Error.wire = .ok h := by
    rw [Codec.header_of_mem hmem]
    rfl
  have hencoder : (h.fields.map EncodeField.ofLayout).map (fun f => assigned.get? f.ident)
      = h.fields.map fun f => assigned.get? f.ident := by
    simp only [List.map_map, Function.comp_def, EncodeField.ofLayout]
  rw [Codec.encodeHeader, hheader, runHeaderEncoder, hencoder]
  change (h.fields.mapM (Codec.propertyValue (rekeyed h.fields assigned)) >>= _) = _
  rw [hcodec]
  change ((Wire.writeOptionalFields _).toExcept.mapError Codec.Error.wire >>= _) = _
  cases (Wire.writeOptionalFields (h.fields.map fun f => assigned.get? f.ident)).toExcept with
  | error cause => rfl
  | ok body => rfl

/-! ## The module and the codec -/

/-- **Generated encoders agree with the codec.**  The encoder of a method is found by its stem and
carries the method's numbers; for every record whose values are of the kinds of their fields, and
which leaves only fields with a default empty, running it gives what the codec gives for the same
values under their keys, octets or fault.  So does the encoder of a header, for every body size and
whatever properties are present. -/
theorem encoders_agree (schema : Schema) (options : Options) :
    ∃ module codec, Module.ofSchema schema options = .ok module ∧
      Codec.ofSchema schema = .ok codec ∧
      (∀ c ∈ schema.classes, ∀ m ∈ c.methods, ∃ layout f argsType fields,
        Layout.Method.ofMethod schema.toModel c m = .ok layout ∧
        module.function? ("encode_" ++ Identifier.methodStem c.name m.name) = some f ∧
        f.body = .encodeMethod argsType c.id m.id fields ∧
        ∀ assigned : Assignment, OfKinds layout.fields assigned → Complete layout.fields assigned →
          ∃ outcome, runMethodEncoder c.id m.id fields assigned = some outcome ∧
            codec.encodeMethod (c.name ++ "." ++ m.name) (rekeyed layout.fields assigned)
              = outcome.mapError .wire) ∧
      ∀ c ∈ schema.classes, ∃ f propertiesType fields,
        module.function? ("encode_" ++ Identifier.headerStem c.name) = some f ∧
        f.body = .encodeHeader propertiesType c.id fields ∧
        ∀ (bodySize : UInt64) (assigned : Assignment),
          OfKinds (Layout.Header.ofClass c).fields assigned →
            codec.encodeHeader c.id bodySize (rekeyed (Layout.Header.ofClass c).fields assigned)
              = (runHeaderEncoder c.id fields bodySize assigned).mapError .wire := by
  refine ⟨_, _, Module.ofSchema_eq schema options, Codec.ofSchema_eq schema, ?_, ?_⟩
  · intro c hc m hm
    have hmem := Schema.mem_methodLayouts.2 ⟨c, hc, m, hm, rfl⟩
    have hfunction := Module.function?_methodEncoder options hmem
    rw [encoderName, Layout.Method.stem] at hfunction
    refine ⟨_, _, _, _, Schema.ofMethod_eq hc hm, hfunction, rfl, ?_⟩
    intro assigned hkinds hcomplete
    obtain ⟨outcome, hrun, hcodec⟩ := encodeLayout_rekeyed hmem hkinds hcomplete
    exact ⟨outcome, hrun, (Codec.encodeMethod_of_mem hmem _).trans hcodec⟩
  · intro c hc
    have hmem := Schema.mem_headerLayouts.2 ⟨c, hc, rfl⟩
    have hfunction := Module.function?_headerEncoder options hmem
    rw [encoderName, Layout.Header.stem] at hfunction
    exact ⟨_, _, _, hfunction, rfl, fun bodySize assigned hkinds =>
      encodeHeader_rekeyed hmem hkinds bodySize⟩

/-- The fields of the request. -/
def declareFields : List Layout.Field :=
  (Layout.Method.settled Schema.queue.toModel Schema.queueClass Schema.declare).fields

/-- A record of the request that leaves three fields to their defaults. -/
def declareRecord : Assignment := .ofList [
  ("queue_name", .shortstr "jobs"), ("durable", .bit true)]

/-- A record of properties of which one is present. -/
def queueRecord : Assignment := .ofList [("priority", .octet 7)]

theorem queue_encoders_agree : ∃ module codec fields fields' outcome,
    Module.ofSchema .queue {} = .ok module ∧ Codec.ofSchema .queue = .ok codec ∧
      (∃ f argsType, module.function? "encode_queue_declare" = some f ∧
        f.body = .encodeMethod argsType 50 10 fields) ∧
      runMethodEncoder 50 10 fields declareRecord = some outcome ∧
      codec.encodeMethod "queue.declare" (rekeyed declareFields declareRecord)
        = outcome.mapError .wire ∧
      (∃ f propertiesType, module.function? "encode_queue_header" = some f ∧
        f.body = .encodeHeader propertiesType 50 fields') ∧
      codec.encodeHeader 50 12
          (rekeyed (Layout.Header.ofClass Schema.queueClass).fields queueRecord)
        = (runHeaderEncoder 50 fields' 12 queueRecord).mapError .wire := by
  obtain ⟨module, codec, hmodule, hcodec, hmethods, hheaders⟩ := encoders_agree .queue {}
  obtain ⟨layout, f, argsType, fields, hlayout, hf, hbody, hagree⟩ :=
    hmethods Schema.queueClass List.mem_cons_self Schema.declare List.mem_cons_self
  obtain ⟨f', propertiesType, fields', hf', hbody', hagree'⟩ :=
    hheaders Schema.queueClass List.mem_cons_self
  obtain rfl := Except.ok.inj
    ((Schema.ofMethod_eq List.mem_cons_self List.mem_cons_self).symm.trans hlayout)
  have hkinds : OfKinds declareFields declareRecord := by unfold OfKinds; decide +kernel
  have hcomplete : Complete declareFields declareRecord := by unfold Complete; decide +kernel
  have hkinds' : OfKinds (Layout.Header.ofClass Schema.queueClass).fields queueRecord := by
    unfold OfKinds
    decide +kernel
  have hname : "encode_" ++ Identifier.methodStem "queue" "declare" = "encode_queue_declare" := by
    decide +kernel
  have hname' : "encode_" ++ Identifier.headerStem "queue" = "encode_queue_header" := by
    decide +kernel
  obtain ⟨outcome, hrun, heq⟩ := hagree declareRecord hkinds hcomplete
  exact ⟨module, codec, fields, fields', outcome, hmodule, hcodec,
    ⟨f, argsType, hname ▸ hf, hbody⟩, hrun, heq, ⟨f', propertiesType, hname' ▸ hf', hbody'⟩,
    hagree' 12 queueRecord hkinds'⟩

end FrameSchema.Bindings
