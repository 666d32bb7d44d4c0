import FrameSchema.Bindings.Types

/-!
# Bindings/Functions — the functions generated for a schema, and its module

Every method and every header gets an encoder and a decoder with the fields of its layout, in its
order.  Two dispatchers read the numbers in front of a frame and hand the rest to a decoder.
Decoders never put defaults in: a frame says all it has to say.  In the module of a schema constants
come first, if they are wanted, then types, encoders and decoders.
-/

namespace FrameSchema.Bindings

/-! ## Encoders -/

/-- The name of a frame's encoder. -/
def encoderName (stem : String) : String := "encode_" ++ stem

/-- A field as its encoder sees it. -/
def EncodeField.ofLayout (f : Layout.Field) : EncodeField := ⟨f.ident, f.primitive, f.default⟩

/-- The encoder of a method. -/
def methodEncoder (m : Layout.Method) : Function where
  name := encoderName m.stem
  doc := [s!"Encode `{m.displayName}` (class {m.classId.toNat}, method {m.methodId.toNat})" ++
    ", substituting defaults for absent arguments."]
  body := .encodeMethod (argsName m) m.classId m.methodId (m.fields.map EncodeField.ofLayout)

/-- The encoder of a header. -/
def headerEncoder (h : Layout.Header) : Function where
  name := encoderName h.stem
  doc := [s!"Encode a `{h.className}` header frame (class {h.classId.toNat})" ++
    " for a body of `body_size` bytes."]
  body := .encodeHeader (propertiesName h) h.classId (h.fields.map EncodeField.ofLayout)

/-- All encoders, methods first. -/
def encoderItems (methods : List Layout.Method) (headers : List Layout.Header) : List Item :=
  methods.map (Item.function ∘ methodEncoder) ++ headers.map (Item.function ∘ headerEncoder)

/-! ## Decoders -/

/-- The name of a frame's decoder. -/
def decoderName (stem : String) : String := "decode_" ++ stem

/-- A field as its decoder sees it. -/
def DecodeField.ofLayout (f : Layout.Field) : DecodeField := ⟨f.ident, f.primitive⟩

/-- The decoder of a method. -/
def methodDecoder (m : Layout.Method) : Function where
  name := decoderName m.stem
  doc := [s!"Decode the body of `{m.displayName}`; class and method ids are already consumed."]
  body := .decodeMethod (valueName m) (m.fields.map DecodeField.ofLayout)

/-- The decoder of a header. -/
def headerDecoder (h : Layout.Header) : Function where
  name := decoderName h.stem
  doc := [s!"Decode a `{h.className}` header frame; the class id is already consumed."]
  body := .decodeHeader (headerName h) (propertiesName h) (h.fields.map DecodeField.ofLayout)

/-! ## Dispatchers -/

/-- The route to a method's decoder. -/
def methodRoute (m : Layout.Method) : Route := ⟨m.methodId, decoderName m.stem, m.typeName⟩

/-- The routes to the methods that bear the number of a class. -/
def classRoute (methods : List Layout.Method) (classId : UInt16) : ClassRoute :=
  ⟨classId, (methods.filter (·.classId == classId)).map methodRoute⟩

/-- The route to a header's decoder. -/
def headerRoute (h : Layout.Header) : Route := ⟨h.classId, decoderName h.stem, h.classTypeName⟩

/-- The dispatcher of method frames: by class, in schema order, then by method. -/
def methodDispatcher (methods : List Layout.Method) (headers : List Layout.Header) : Function where
  name := "decode_method"
  doc := ["Decode a method frame payload, routing on class id then method id.",
    "Fails with `UnknownClass` or `UnknownMethod` for ids the schema does not define."]
  body := .dispatchMethod messageUnion (headers.map fun h => classRoute methods h.classId)

/-- The dispatcher of header frames. -/
def headerDispatcher (headers : List Layout.Header) : Function where
  name := "decode_header"
  doc := ["Decode a header frame payload, routing on class id."]
  body := .dispatchHeader headerUnion (headers.map headerRoute)

/-- All decoders, methods first, and the two dispatchers. -/
def decoderItems (methods : List Layout.Method) (headers : List Layout.Header) : List Item :=
  methods.map (Item.function ∘ methodDecoder) ++ headers.map (Item.function ∘ headerDecoder) ++
    [.function (methodDispatcher methods headers), .function (headerDispatcher headers)]

/-! ## The module -/

/-- The constant of a schema's constant. -/
def Constant.ofSchema (c : Schema.Constant) : Constant :=
  ⟨Identifier.constant c.name, c.value, c.className⟩

/-- The constants, if they are wanted. -/
def constantItems (options : Options) (model : Schema.Model) : List Item :=
  if options.emitConstants then model.constants.map (Item.constant ∘ Constant.ofSchema) else []

/-- **The module of a schema.** -/
def Module.ofSchema (schema : Schema) (options : Options) : Except Schema.Error Module := do
  let methods ← Layout.methods schema.toModel
  let headers := Layout.headers schema.toModel
  return ⟨options.runtimePath, constantItems options schema.toModel ++
    typeItems options methods headers ++ encoderItems methods headers ++
    decoderItems methods headers⟩

end FrameSchema.Bindings
