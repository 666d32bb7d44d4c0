import FrameSchema.Proofs.Codec.RoundTrip
import FrameSchema.Proofs.Wire.ReceivedLists

/-!
# Proofs/Codec/Normalization — a decoded frame can be encoded, and decodes to itself

A frame may be received in many spellings: bits that no field asks for, keys of a table in any
order or twice, a weight, flags of unknown properties, octets behind its end.  Decoding forgets the
spelling.  What it gives is a layout of the schema with values that were read for its fields
(`gives_readMethod`, `gives_readHeader`), and such a message has one frame of its own, which decodes
to it (`decodeMethod_encodeLayout_keyed`, `decodeHeader_encodeHeader_keyedPresent`).
-/

namespace FrameSchema

namespace Codec

open Wire (Gives)

/-- What an operation gives on all octets is something that it gives. -/
theorem of_runOn_eq_ok {α : Type} {read : Wire.Read α} {P : α → Prop} (h : Gives read P)
    {octets : Octets} {a : α} (hok : runOn read octets = .ok a) : P a := by
  rw [runOn] at hok
  split at hok
  case h_1 result r hread =>
    obtain rfl := Except.ok.inj hok
    exact h _ result r hread
  case h_2 => cases hok

variable {schema : Schema}

/-! ## Method frames -/

/-- **A message that was read** is a layout of the schema with a bounded value for each field, all
of which can be written. -/
theorem gives_readMethod : Gives schema.codec.readMethod fun msg =>
    ∃ m ∈ schema.methodLayouts, ∃ values body, Wire.BoundedOfKinds m.types values ∧
      Wire.writeFields values = .complete body ∧
      msg = ⟨m.classId, m.methodId, m.displayName, keyed m.fields values⟩ := by
  refine .after fun classId => .after fun methodId => (Wire.gives_ofExcept _).bind fun m hm => ?_
  obtain ⟨hmem, rfl, rfl⟩ := mem_of_method hm
  have hvalues := (Wire.yields_readFields m.types).gives
    (G := fun values => Wire.BoundedOfKinds m.types values ∧
      ∃ body, Wire.writeFields values = .complete body)
    fun _ values ⟨hvalues, body, hbody, _⟩ => ⟨hvalues, body, hbody⟩
  exact hvalues.bind fun values ⟨hvalues, body, hbody⟩ =>
    .pure ⟨m, hmem, values, body, hvalues, hbody, rfl⟩

/-- **Values read for the fields of a layout are encoded by it**, none of its defaults being asked
for, and what is encoded is decoded to the same message. -/
theorem decodeMethod_encodeLayout_keyed {m : Layout.Method} (hm : m ∈ schema.methodLayouts)
    {values : List Wire.Value} {body : Octets} (hvalues : Wire.BoundedOfKinds m.types values)
    (hbody : Wire.writeFields values = .complete body) : ∃ frame,
      encodeLayout m (keyed m.fields values) = .ok frame ∧
      schema.codec.decodeMethod frame
        = .ok ⟨m.classId, m.methodId, m.displayName, keyed m.fields values⟩ := by
  have hkeys := (Schema.methodFields_distinct hm).nodup_keys
  have hread := runOn_of_reads (reads_readMethod hm (hvalues.reads hbody)) []
  rw [List.append_nil] at hread
  rw [Layout.Method.types, Wire.BoundedOfKinds, List.forall₂_map_left_iff] at hvalues
  have hgiven : List.Forall₂ (fun f v => fieldValue m (keyed m.fields values) f = .ok v)
      m.fields values := by
    refine List.forall₂_iff_zip.2 ⟨hvalues.length_eq, fun hpair => fieldValue_eq_ok_iff.2 ⟨?_, ?_⟩⟩
    · rw [get?_keyed hkeys hvalues.length_eq hpair, Option.some_or]
    · exact (List.forall₂_zip hvalues hpair).1
  exact ⟨_, encodeLayout_eq_ok_iff.2 ⟨values, body, hgiven, hbody, rfl⟩, hread⟩

/-! ## Header frames -/

/-- **A header that was read** is a layout of the schema with bounded values for some of its fields,
all of which can be written. -/
theorem gives_readHeader : Gives schema.codec.readHeader fun header =>
    ∃ h ∈ schema.headerLayouts, ∃ bodySize values body, Wire.BoundedPresent h.types values ∧
      Wire.writeOptionalFields values = .complete body ∧
      header = ⟨h.classId, bodySize, keyedPresent h.fields values⟩ := by
  refine .after fun classId => (Wire.gives_ofExcept _).bind fun h hh => .after fun _ =>
    .after fun bodySize => ?_
  obtain ⟨hmem, rfl⟩ := mem_of_header hh
  have hvalues := (Wire.yields_readOptionalFields h.types).gives
    (G := fun values => Wire.BoundedPresent h.types values ∧
      ∃ octets, Wire.writeOptionalFields values = .complete octets)
    fun _ values ⟨_, _, _, _, _, _, hvalues, body, hbody, _⟩ =>
      ⟨hvalues, _, Wire.writeOptionalFields_eq_complete_iff.2 ⟨body, hbody, rfl⟩⟩
  exact hvalues.bind fun values ⟨hvalues, body, hbody⟩ =>
    .pure ⟨h, hmem, bodySize, values, body, hvalues, hbody, rfl⟩

/-- **Properties that were read for a layout are encoded by it**, and what is encoded is decoded to
the same header. -/
theorem decodeHeader_encodeHeader_keyedPresent {h : Layout.Header}
    (hmem : h ∈ schema.headerLayouts) (bodySize : UInt64) {values : List (Option Wire.Value)}
    {body : Octets} (hvalues : Wire.BoundedPresent h.types values)
    (hbody : Wire.writeOptionalFields values = .complete body) : ∃ frame,
      schema.codec.encodeHeader h.classId bodySize (keyedPresent h.fields values) = .ok frame ∧
      schema.codec.decodeHeader frame
        = .ok ⟨h.classId, bodySize, keyedPresent h.fields values⟩ := by
  have hkeys := (Schema.headerFields_distinct hmem).nodup_keys
  have hread := runOn_of_reads (reads_readHeader hmem 0 bodySize (hvalues.reads hbody)) []
  rw [List.append_nil] at hread
  rw [Layout.Header.types, Wire.BoundedPresent, List.forall₂_map_left_iff] at hvalues
  have hgiven : List.Forall₂ (fun f o => propertyValue (keyedPresent h.fields values) f = .ok o)
      h.fields values :=
    List.forall₂_iff_zip.2 ⟨hvalues.length_eq, fun hpair => propertyValue_eq_ok_iff.2
      ⟨get?_keyedPresent hkeys hvalues.length_eq hpair,
        fun v hv => (List.forall₂_zip hvalues hpair v hv).1⟩⟩
  exact ⟨_, (encodeHeader_eq_ok_iff hmem).2 ⟨values, body, hgiven, hbody, rfl⟩, hread⟩

/-! ## Both -/

/-- **Decoding brings frames into a normal form.**  Whatever octets are decoded to a message, its
name and its numbers both encode its values, as one and the same frame, and this frame is decoded to
the message.  Whatever octets are decoded to a header, its class encodes its body size and its
properties as a frame that is decoded to the header. -/
theorem decode_encode_decode (schema : Schema) : ∃ codec, ofSchema schema = .ok codec ∧
    (∀ octets msg, codec.decodeMethod octets = .ok msg → ∃ frame,
      codec.encodeMethod msg.name msg.values = .ok frame ∧
      codec.encodeMethodById msg.classId msg.methodId msg.values = .ok frame ∧
      codec.decodeMethod frame = .ok msg) ∧
    ∀ octets header, codec.decodeHeader octets = .ok header → ∃ frame,
      codec.encodeHeader header.classId header.bodySize header.properties = .ok frame ∧
      codec.decodeHeader frame = .ok header := by
  refine ⟨schema.codec, ofSchema_eq schema, fun octets msg hok => ?_, fun octets header hok => ?_⟩
  · obtain ⟨m, hm, values, body, hvalues, hbody, rfl⟩ := of_runOn_eq_ok gives_readMethod hok
    obtain ⟨frame, hframe, hdecode⟩ := decodeMethod_encodeLayout_keyed hm hvalues hbody
    refine ⟨frame, ?_, ?_, hdecode⟩
    · rw [encodeMethod_of_mem hm, hframe]
    · rw [encodeMethodById_of_mem hm, hframe]
  · obtain ⟨h, hmem, bodySize, values, body, hvalues, hbody, rfl⟩ :=
      of_runOn_eq_ok gives_readHeader hok
    exact decodeHeader_encodeHeader_keyedPresent hmem bodySize hvalues hbody

/-- A request in a spelling of its own: an octet of bits with six more than the method has, a table
whose keys are neither in order nor distinct, and an octet behind the end. -/
def declareSpelling : Octets := [0, 50, 0, 10, 0, 5, 1, 113, 254,
  0, 0, 0, 12, 1, 98, 66, 1, 1, 97, 116, 7, 1, 98, 66, 2, 206]

/-- A header in a spelling of its own: a weight, flags of unknown properties, a second flag word,
and an octet behind the end. -/
def headerSpelling : Octets :=
  [0, 50, 0, 7, 0, 0, 0, 0, 0, 0, 0, 12, 96, 1, 128, 0, 7, 206]

/-- Both frames are decoded, and encoded as what they should have been. -/
theorem decode_spellings : ∃ codec msg header, ofSchema .queue = .ok codec ∧
    codec.decodeMethod declareSpelling = .ok msg ∧
    codec.encodeMethod msg.name msg.values = .ok [0, 50, 0, 10, 0, 5, 1, 113, 2,
      0, 0, 0, 8, 1, 97, 116, 1, 1, 98, 66, 2] ∧
    codec.decodeMethod [0, 50, 0, 10, 0, 5, 1, 113, 2,
      0, 0, 0, 8, 1, 97, 116, 1, 1, 98, 66, 2] = .ok msg ∧
    codec.decodeHeader headerSpelling = .ok header ∧
    codec.encodeHeader header.classId header.bodySize header.properties
      = .ok [0, 50, 0, 0, 0, 0, 0, 0, 0, 0, 0, 12, 64, 0, 7] ∧
    codec.decodeHeader [0, 50, 0, 0, 0, 0, 0, 0, 0, 0, 0, 12, 64, 0, 7] = .ok header := by
  obtain ⟨codec, hcodec, hmethods, hheaders⟩ := decode_encode_decode .queue
  obtain rfl := Except.ok.inj ((ofSchema_eq .queue).symm.trans hcodec)
  let msg : Message := ⟨50, 10, "queue.declare", .ofList [("ticket", .short 5),
    ("queueName", .shortstr "q"), ("passive", .bit false), ("durable", .bit true),
    ("arguments", .table (Wire.Table.ofList [("a", .bit true), ("b", .octet 2)]))]⟩
  let header : Header := ⟨50, 12, .ofList [("priority", .octet 7)]⟩
  have hmsg : Schema.queue.codec.decodeMethod declareSpelling = .ok msg :=
    toOption_eq_some_iff.1 (by decide +kernel)
  have hheader : Schema.queue.codec.decodeHeader headerSpelling = .ok header :=
    toOption_eq_some_iff.1 (by decide +kernel)
  obtain ⟨frame, hframe, -, hagain⟩ := hmethods declareSpelling msg hmsg
  obtain ⟨frame', hframe', hagain'⟩ := hheaders headerSpelling header hheader
  have hmethod : Schema.queue.codec.encodeMethod msg.name msg.values = .ok [0, 50, 0, 10, 0, 5, 1,
      113, 2, 0, 0, 0, 8, 1, 97, 116, 1, 1, 98, 66, 2] :=
    toOption_eq_some_iff.1 (by decide +kernel)
  have hproperties : Schema.queue.codec.encodeHeader header.classId header.bodySize
      header.properties = .ok [0, 50, 0, 0, 0, 0, 0, 0, 0, 0, 0, 12, 64, 0, 7] :=
    toOption_eq_some_iff.1 (by decide +kernel)
  obtain rfl := Except.ok.inj (hframe.symm.trans hmethod)
  obtain rfl := Except.ok.inj (hframe'.symm.trans hproperties)
  exact ⟨_, msg, header, hcodec, hmsg, hframe, hagain, hheader, hframe', hagain'⟩

end Codec

end FrameSchema
