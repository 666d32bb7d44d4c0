import FrameSchema.Proofs.Codec.Lookup
import FrameSchema.Proofs.Wire.OptionalRoundTrip

/-!
# Proofs/Codec/RoundTrip — frames that the codec encodes are decoded again

A method frame comes back with what was given for its fields and with the declared defaults for the
others (`decodeMethod_encodeMethod`), a header frame with exactly the properties that were given
(`decodeHeader_encodeHeader`), whatever octets follow.  Both rest on the round trips of field lists
and on the numbers in front of a frame finding the layout it was written by.
-/

namespace FrameSchema

/-- Defaults are no deeper than the empty table. -/
theorem Schema.Default.tableDepth_value_le (d : Schema.Default) (p : Primitive) :
    (d.value p).tableDepth ≤ Wire.maxTableDepth := by
  by_cases hp : p = .table
  · have hempty : d.value .table = .table Wire.Table.empty := by cases d <;> rfl
    rw [hp, hempty]
    decide
  · rw [Wire.Value.tableDepth_of_ne (by simpa using hp)]
    exact Nat.zero_le _

namespace Codec

open Wire (Reads)

theorem checkKind_eq_ok_iff {key : String} {expected : Primitive} {value v : Wire.Value} :
    checkKind key expected value = .ok v ↔ value = v ∧ v.primitive = expected := by
  rw [checkKind]
  by_cases h : value.primitive = expected
  · rw [if_pos h, Except.ok.injEq]
    exact ⟨fun hv => ⟨hv, hv ▸ h⟩, fun hv => hv.1⟩
  · rw [if_neg h]
    exact ⟨fun hv => (nomatch hv), fun hv => absurd (hv.1 ▸ hv.2) h⟩

/-- The value of a field is what was given under its key, or its default, and of its kind. -/
theorem fieldValue_eq_ok_iff {m : Layout.Method} {args : Arguments} {f : Layout.Field}
    {v : Wire.Value} : fieldValue m args f = .ok v ↔
      (args.get? f.key).or (f.default.map (·.value f.primitive)) = some v ∧
        v.primitive = f.primitive := by
  rw [fieldValue]
  cases args.get? f.key with
  | some value => rw [Option.some_or, Option.some.injEq]; exact checkKind_eq_ok_iff
  | none =>
    rw [Option.none_or]
    cases f.default with
    | none => exact ⟨fun h => (nomatch h), fun h => (nomatch h.1)⟩
    | some d =>
      rw [Option.map_some, Option.some.injEq, Except.ok.injEq]
      exact ⟨fun h => ⟨h, by simp [← h]⟩, fun h => h.1⟩

/-- The value of a property is what was given under its key, if anything, and of its kind. -/
theorem propertyValue_eq_ok_iff {properties : Arguments} {f : Layout.Field}
    {o : Option Wire.Value} : propertyValue properties f = .ok o ↔
      properties.get? f.key = o ∧ ∀ v ∈ o, v.primitive = f.primitive := by
  rw [propertyValue]
  cases properties.get? f.key with
  | none =>
    rw [Except.ok.injEq]
    exact ⟨fun h => ⟨h, fun v hv => by rw [← h] at hv; cases hv⟩, fun h => h.1⟩
  | some value =>
    rw [map_eq_ok_iff]
    constructor
    · rintro ⟨v, hv, rfl⟩
      obtain ⟨rfl, hkind⟩ := checkKind_eq_ok_iff.1 hv
      exact ⟨rfl, fun w hw => Option.some.inj hw ▸ hkind⟩
    · rintro ⟨rfl, hkind⟩
      exact ⟨value, checkKind_eq_ok_iff.2 ⟨rfl, hkind value rfl⟩, rfl⟩

/-- A frame is its two numbers and the list of its fields, each of which has a value. -/
theorem encodeLayout_eq_ok_iff {m : Layout.Method} {args : Arguments} {octets : Octets} :
    encodeLayout m args = .ok octets ↔ ∃ values body,
      List.Forall₂ (fun f v => fieldValue m args f = .ok v) m.fields values ∧
        Wire.writeFields values = .complete body ∧
        Octets.bigEndian 2 m.classId.toNat ++ Octets.bigEndian 2 m.methodId.toNat ++ body
          = octets := by
  rw [encodeLayout, bind_eq_ok_iff]
  refine exists_congr fun values => ?_
  simp only [mapM_eq_ok_iff, bind_eq_ok_iff, mapError_eq_ok_iff, Wire.Written.toExcept_eq_ok_iff,
    exists_and_left, pure, Except.pure, Except.ok.injEq]

/-- Where there is a value for each field, the writer of the values decides. -/
theorem encodeLayout_of_values {m : Layout.Method} {args : Arguments} {values : List Wire.Value}
    (h : m.fields.mapM (fieldValue m args) = .ok values) :
    encodeLayout m args = match (Wire.writeFields values).toExcept with
      | .ok body => .ok
          (Octets.bigEndian 2 m.classId.toNat ++ Octets.bigEndian 2 m.methodId.toNat ++ body)
      | .error cause => .error (.wire cause) := by
  rw [encodeLayout, h]
  change ((Wire.writeFields values).toExcept.mapError Error.wire >>= _) = _
  cases (Wire.writeFields values).toExcept with
  | error cause => rfl
  | ok body => rfl

/-- What stands at the head of an input is what an operation gives on all of it. -/
theorem runOn_of_reads {α : Type} {read : Wire.Read α} {octets : Octets} {a : α}
    (h : Reads read octets a) (rest : Octets) : runOn read (octets ++ rest) = .ok a := by
  rw [runOn, Wire.Reader.ofOctets, h]

variable {schema : Schema}

theorem reads_ofExcept {α : Type} (a : α) :
    Reads (MonadExcept.ofExcept (.ok a : Except Wire.Error α)) [] a := fun _ _ => rfl

/-- **The numbers in front of a method frame lead to its fields.** -/
theorem reads_readMethod {m : Layout.Method} (hm : m ∈ schema.methodLayouts) {body : Octets}
    {values : List Wire.Value} (hbody : Reads (Wire.readFields m.types) body values) :
    Reads schema.codec.readMethod
      (Octets.bigEndian 2 m.classId.toNat ++ Octets.bigEndian 2 m.methodId.toNat ++ body)
      ⟨m.classId, m.methodId, m.displayName, keyed m.fields values⟩ := by
  rw [List.append_assoc]
  refine (Wire.reads_readShort m.classId).bind ((Wire.reads_readShort m.methodId).bind ?_)
  rw [method_of_mem hm]
  exact (reads_ofExcept m).bind (hbody.map (.pure _))

/-- **The number in front of a header frame leads to its properties**, the weight being passed
over. -/
theorem reads_readHeader {h : Layout.Header} (hmem : h ∈ schema.headerLayouts) {body : Octets}
    {values : List (Option Wire.Value)} (weight : UInt16) (bodySize : UInt64)
    (hbody : Reads (Wire.readOptionalFields h.types) body values) :
    Reads schema.codec.readHeader
      (Octets.bigEndian 2 h.classId.toNat ++ Octets.bigEndian 2 weight.toNat ++
        Octets.bigEndian 8 bodySize.toNat ++ body)
      ⟨h.classId, bodySize, keyedPresent h.fields values⟩ := by
  rw [List.append_assoc, List.append_assoc]
  refine (Wire.reads_readShort h.classId).bind ?_
  rw [header_of_mem hmem]
  exact (reads_ofExcept h).bind ((Wire.reads_readShort weight).bind
    ((Wire.reads_readLonglong bodySize).bind (hbody.map (.pure _))))

/-! ## Method frames -/

/-- **What is encoded of a layout is decoded again**: for each field what was given, or else its
default. -/
theorem decodeMethod_encodeLayout {m : Layout.Method} (hm : m ∈ schema.methodLayouts)
    {args : Arguments} {octets : Octets} (h : encodeLayout m args = .ok octets)
    (hdepth : ∀ f ∈ m.fields, ∀ v ∈ args.get? f.key, v.tableDepth ≤ Wire.maxTableDepth)
    (rest : Octets) : ∃ values,
      schema.codec.decodeMethod (octets ++ rest)
        = .ok ⟨m.classId, m.methodId, m.displayName, values⟩ ∧
      values.keys.Perm (m.fields.map (·.key)) ∧
      ∀ f ∈ m.fields,
        values.get? f.key = (args.get? f.key).or (f.default.map (·.value f.primitive)) := by
  obtain ⟨values, body, hvalues, hbody, rfl⟩ := encodeLayout_eq_ok_iff.1 h
  simp only [fieldValue_eq_ok_iff] at hvalues
  have hlength := hvalues.length_eq
  have hkinds : m.types = values.map Wire.Value.primitive :=
    forall₂_eq_iff.1 (hvalues.imp fun _ _ hv => hv.2.symm)
  have hsent : ∀ v ∈ values, v.tableDepth ≤ Wire.maxTableDepth := by
    intro v hv
    obtain ⟨f, hpair⟩ := exists_mem_zip_right hlength hv
    rcases Option.or_eq_some_iff.1 (List.forall₂_zip hvalues hpair).1 with hgiven | hdefault
    · exact hdepth f (List.of_mem_zip hpair).1 v hgiven
    · obtain ⟨d, _, rfl⟩ := Option.map_eq_some_iff.1 hdefault.2
      exact d.tableDepth_value_le f.primitive
  have hread := Wire.reads_writeFields hsent hbody
  rw [← hkinds] at hread
  have hkeys := (Schema.methodFields_distinct hm).nodup_keys
  refine ⟨_, runOn_of_reads (reads_readMethod hm hread) rest, keys_keyed hkeys hlength,
    fun f hf => ?_⟩
  obtain ⟨v, hpair⟩ := exists_mem_zip_left hlength hf
  rw [get?_keyed hkeys hlength hpair, (List.forall₂_zip hvalues hpair).1]

/-- **Method frames are read back, with defaults applied.**  If a frame is encoded from some
arguments, and none of the tables sent is too deep, then it is decoded under the numbers and the
name of the method, whatever follows it; the message has one entry for each field of the method and
no other, which is the argument given for the field or else the field's default. -/
theorem decodeMethod_encodeMethod (schema : Schema) :
    ∃ codec, ofSchema schema = .ok codec ∧
      ∀ c ∈ schema.classes, ∀ m ∈ c.methods, ∃ layout,
        Layout.Method.ofMethod schema.toModel c m = .ok layout ∧
        ∀ (args : Arguments) (octets : Octets),
          codec.encodeMethod (c.name ++ "." ++ m.name) args = .ok octets →
          (∀ f ∈ layout.fields, ∀ v ∈ args.get? f.key, v.tableDepth ≤ Wire.maxTableDepth) →
          ∀ rest : Octets, ∃ values,
            codec.decodeMethod (octets ++ rest)
              = .ok ⟨c.id, m.id, c.name ++ "." ++ m.name, values⟩ ∧
            values.keys.Perm (layout.fields.map (·.key)) ∧
            ∀ f ∈ layout.fields,
              values.get? f.key = (args.get? f.key).or (f.default.map (·.value f.primitive)) := by
  refine ⟨schema.codec, ofSchema_eq schema, fun c hc m hm =>
    ⟨_, Schema.ofMethod_eq hc hm, fun args octets h hdepth rest => ?_⟩⟩
  have hmem := Schema.mem_methodLayouts.2 ⟨c, hc, m, hm, rfl⟩
  exact decodeMethod_encodeLayout hmem (encodeMethod_of_mem hmem args ▸ h) hdepth rest

/-- A request of which a text and a bit are given, the rest being left to the defaults; the last key
is no field's. -/
def declareArguments : Arguments := .ofList [
  ("queueName", .shortstr "jobs"), ("durable", .bit true), ("unknown", .octet 9)]

/-- The frame of the request: numbers, ticket, queue name, an octet of bits, and the table. -/
def declareFrame : Octets := [0, 50, 0, 10, 0, 0, 4, 106, 111, 98, 115, 2, 0, 0, 0, 0]

/-- A request with a default left out is read back behind its name, whatever follows. -/
theorem decodeMethod_declareFrame : ∃ codec values,
    ofSchema .queue = .ok codec ∧
      codec.encodeMethod "queue.declare" declareArguments = .ok declareFrame ∧
      codec.decodeMethod (declareFrame ++ [206]) = .ok ⟨50, 10, "queue.declare", values⟩ ∧
      values.get? "queueName" = some (.shortstr "jobs") ∧
      values.get? "ticket" = some (.short 0) := by
  obtain ⟨codec, hcodec, hmethods⟩ := decodeMethod_encodeMethod .queue
  obtain rfl := Except.ok.inj ((ofSchema_eq .queue).symm.trans hcodec)
  obtain ⟨layout, hlayout, hround⟩ :=
    hmethods Schema.queueClass List.mem_cons_self Schema.declare List.mem_cons_self
  obtain rfl := Except.ok.inj
    ((Schema.ofMethod_eq List.mem_cons_self List.mem_cons_self).symm.trans hlayout)
  have hframe : (Schema.queue.codec).encodeMethod "queue.declare" declareArguments
      = .ok declareFrame := toOption_eq_some_iff.1 (by decide +kernel)
  obtain ⟨values, hdecode, _, hvalues⟩ :=
    hround declareArguments declareFrame hframe (by decide +kernel) [206]
  refine ⟨_, values, hcodec, hframe, hdecode, ?_, ?_⟩
  · exact (hvalues ⟨"queue-name", .shortstr, none⟩ (by decide +kernel)).trans (by decide +kernel)
  · exact (hvalues ⟨"ticket", .short, some (.int 0)⟩ (by decide +kernel)).trans (by decide +kernel)

/-! ## Header frames -/

/-- A header is its number, a zero, the size of the body, and the optional list of its properties.
-/
theorem encodeHeader_eq_ok_iff {h : Layout.Header} (hmem : h ∈ schema.headerLayouts)
    {bodySize : UInt64} {given : Arguments} {octets : Octets} :
    schema.codec.encodeHeader h.classId bodySize given = .ok octets ↔ ∃ values body,
      List.Forall₂ (fun f o => propertyValue given f = .ok o) h.fields values ∧
        Wire.writeOptionalFields values = .complete body ∧
        Octets.bigEndian 2 h.classId.toNat ++ Octets.bigEndian 2 (0 : UInt16).toNat ++
          Octets.bigEndian 8 bodySize.toNat ++ body = octets := by
  have hheader : (schema.codec.header h.classId).mapError Error.wire = .ok h := by
    rw [header_of_mem hmem]
    rfl
  rw [encodeHeader, hheader]
  change (h.fields.mapM (propertyValue given) >>= _) = _ ↔ _
  rw [bind_eq_ok_iff]
  refine exists_congr fun values => ?_
  simp only [mapM_eq_ok_iff, bind_eq_ok_iff, mapError_eq_ok_iff, Wire.Written.toExcept_eq_ok_iff,
    exists_and_left, pure, Except.pure, Except.ok.injEq, UInt16.toNat_zero]

/-- **What is encoded of a header's layout is decoded again**: every property as it was given,
present or not. -/
theorem decodeHeader_encodeHeader_of_mem {h : Layout.Header} (hmem : h ∈ schema.headerLayouts)
    {bodySize : UInt64} {given : Arguments} {octets : Octets}
    (hok : schema.codec.encodeHeader h.classId bodySize given = .ok octets)
    (hdepth : ∀ f ∈ h.fields, ∀ v ∈ given.get? f.key, v.tableDepth ≤ Wire.maxTableDepth)
    (rest : Octets) : ∃ properties,
      schema.codec.decodeHeader (octets ++ rest) = .ok ⟨h.classId, bodySize, properties⟩ ∧
      ∀ key, properties.get? key =
        if key ∈ h.fields.map (·.key) then given.get? key else none := by
  obtain ⟨values, body, hvalues, hbody, rfl⟩ := (encodeHeader_eq_ok_iff hmem).1 hok
  simp only [propertyValue_eq_ok_iff] at hvalues
  have hlength := hvalues.length_eq
  have hkinds : Wire.PresentOfKinds h.types values := by
    rw [Layout.Header.types, Wire.PresentOfKinds, List.forall₂_map_left_iff]
    exact hvalues.imp fun _ _ ho => ho.2
  have hsent : ∀ o ∈ values, ∀ v ∈ o, v.tableDepth ≤ Wire.maxTableDepth := by
    intro o ho v hv
    obtain ⟨f, hpair⟩ := exists_mem_zip_right hlength ho
    exact hdepth f (List.of_mem_zip hpair).1 v ((List.forall₂_zip hvalues hpair).1.trans hv)
  have hread := reads_readHeader hmem 0 bodySize
    (Wire.reads_writeOptionalFields hkinds hsent hbody)
  refine ⟨_, runOn_of_reads hread rest, fun key => ?_⟩
  by_cases hkey : key ∈ h.fields.map (·.key)
  · rw [if_pos hkey]
    obtain ⟨f, hf, rfl⟩ := List.mem_map.1 hkey
    obtain ⟨o, hpair⟩ := exists_mem_zip_left hlength hf
    rw [get?_keyedPresent (Schema.headerFields_distinct hmem).nodup_keys hlength hpair,
      (List.forall₂_zip hvalues hpair).1]
  · rw [if_neg hkey, get?_keyedPresent_of_not_mem hkey]

/-- **Header frames are read back.**  If a header frame is encoded from some properties, and none of
the tables sent is too deep, then it is decoded under the same class and with the same body size,
whatever follows it; its properties are those given for the keys of the class, and no others. -/
theorem decodeHeader_encodeHeader (schema : Schema) :
    ∃ codec, ofSchema schema = .ok codec ∧
      ∀ c ∈ schema.classes, ∀ (bodySize : UInt64) (given : Arguments) (octets : Octets),
        codec.encodeHeader c.id bodySize given = .ok octets →
        (∀ f ∈ (Layout.Header.ofClass c).fields, ∀ v ∈ given.get? f.key,
          v.tableDepth ≤ Wire.maxTableDepth) →
        ∀ rest : Octets, ∃ properties,
          codec.decodeHeader (octets ++ rest) = .ok ⟨c.id, bodySize, properties⟩ ∧
          ∀ key, properties.get? key =
            if key ∈ (Layout.Header.ofClass c).fields.map (·.key) then given.get? key
            else none := by
  refine ⟨schema.codec, ofSchema_eq schema, fun c hc bodySize given octets h hdepth rest => ?_⟩
  have hmem := Schema.mem_headerLayouts.2 ⟨c, hc, rfl⟩
  exact decodeHeader_encodeHeader_of_mem hmem h hdepth rest

/-- A header of which one property is given; the other key is no property's. -/
def queueProperties : Arguments := .ofList [("priority", .octet 7), ("unknown", .octet 9)]

/-- The header frame: number, weight, body size, a flag word, and the property. -/
def queueHeaderFrame : Octets := [0, 50, 0, 0, 0, 0, 0, 0, 0, 0, 0, 12, 64, 0, 7]

/-- A header is read back with the properties that its class has, and no others. -/
theorem decodeHeader_queueHeaderFrame : ∃ codec properties,
    ofSchema .queue = .ok codec ∧
      codec.encodeHeader 50 12 queueProperties = .ok queueHeaderFrame ∧
      codec.decodeHeader (queueHeaderFrame ++ [206]) = .ok ⟨50, 12, properties⟩ ∧
      properties.get? "priority" = some (.octet 7) ∧ properties.get? "contentType" = none ∧
      properties.get? "unknown" = none := by
  obtain ⟨codec, hcodec, hclasses⟩ := decodeHeader_encodeHeader .queue
  obtain rfl := Except.ok.inj ((ofSchema_eq .queue).symm.trans hcodec)
  have hframe : (Schema.queue.codec).encodeHeader 50 12 queueProperties = .ok queueHeaderFrame :=
    toOption_eq_some_iff.1 (by decide +kernel)
  obtain ⟨properties, hdecode, hproperties⟩ := hclasses Schema.queueClass List.mem_cons_self 12
    queueProperties queueHeaderFrame hframe (by decide +kernel) [206]
  refine ⟨_, properties, hcodec, hframe, hdecode, ?_, ?_, ?_⟩
  · exact (hproperties "priority").trans (by decide +kernel)
  · exact (hproperties "contentType").trans (by decide +kernel)
  · exact (hproperties "unknown").trans (by decide +kernel)

end Codec

end FrameSchema
