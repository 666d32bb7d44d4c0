import FrameSchema.Bindings.Declaration
import FrameSchema.Layout

/-!
# Bindings/Types — the types generated for a schema

Each class gets a record of its properties and a record of its header frame.  Each method gets a
record of its arguments, in which a field with a default may be left empty, a record of its full
value, in which none may, and the conversion of the second into the first.  Two unions hold every
method frame and every header frame.
-/

namespace FrameSchema.Bindings

/-- What the user settles about generated code. -/
structure Options where
  /-- Where generated code imports the field codec from. -/
  runtimePath : String := "amqp_codegen::wire"
  /-- Traits derived for records. -/
  derives : List String := ["Debug", "Clone", "Default", "PartialEq"]
  emitConstants : Bool := true
  deriving DecidableEq, Repr

/-- Traits derived for unions, which have no default. -/
def Options.unionDerives (options : Options) : List String :=
  options.derives.filter (· != "Default")

/-! ## Names -/

/-- The union of all method frames. -/
def messageUnion : String := "ReceivedMessage"

/-- The union of all header frames. -/
def headerUnion : String := "ReceivedHeader"

/-- The record of a method's arguments. -/
def argsName (m : Layout.Method) : String := m.typeName ++ "Args"

/-- The record of a method's full value. -/
def valueName (m : Layout.Method) : String := m.typeName

/-- The record of a class's properties. -/
def propertiesName (h : Layout.Header) : String := h.classTypeName ++ "Properties"

/-- The record of a class's header frame. -/
def headerName (h : Layout.Header) : String := h.classTypeName ++ "Header"

/-! ## Records -/

/-- The field of a record that holds a frame's field; only an optional one tells its default. -/
def Field.ofLayout (isOptional : Bool) (f : Layout.Field) : Field where
  name := f.ident
  type := .stored f.primitive.storage
  isOptional := isOptional
  default := if isOptional then f.default else none

/-- The record of a class's properties. -/
def propertiesRecord (options : Options) (h : Layout.Header) : Record where
  name := propertiesName h
  doc := [s!"Properties carried in a `{h.className}` header frame. Absent properties are not sent."]
  derives := options.derives
  fields := h.fields.map (Field.ofLayout true)
  consts := []

/-- The record of a class's header frame. -/
def headerRecord (options : Options) (h : Layout.Header) : Record where
  name := headerName h
  doc := [s!"Header frame of class `{h.className}`."]
  derives := options.derives
  fields := [⟨"body_size", .stored .u64, false, none⟩,
    ⟨"properties", .named (propertiesName h), false, none⟩]
  consts := [⟨"CLASS_ID", .number h.classId⟩]

/-- The record of a method's arguments. -/
def argsRecord (options : Options) (m : Layout.Method) : Record where
  name := argsName m
  doc := [s!"Arguments of `{m.displayName}`. Fields with a default may be left as `None`."]
  derives := options.derives
  fields := m.fields.map fun f => Field.ofLayout f.default.isSome f
  consts := []

/-- The remarks on a method's full value: what it is, and what answers it. -/
def valueDoc (m : Layout.Method) : List String :=
  (s!"`{m.displayName}` (class {m.classId.toNat}, method {m.methodId.toNat})" ++
    " with every field present.") ::
  match m.response with
  | some response => [s!"Answered by `{m.className}.{response}`."]
  | none => []

/-- The record of a method's full value. -/
def valueRecord (options : Options) (m : Layout.Method) : Record where
  name := valueName m
  doc := valueDoc m
  derives := options.derives
  fields := m.fields.map (Field.ofLayout false)
  consts := [⟨"CLASS_ID", .number m.classId⟩, ⟨"METHOD_ID", .number m.methodId⟩,
    ⟨"SYNCHRONOUS", .truth m.synchronous⟩, ⟨"HAS_CONTENT", .truth m.content⟩]

/-- The conversion of a method's full value into its arguments. -/
def argsConversion (m : Layout.Method) : Conversion where
  source := valueName m
  target := argsName m
  fields := m.fields.map fun f => (f.ident, f.default.isSome)

/-! ## Unions -/

/-- The variant of a method frame. -/
def methodVariant (m : Layout.Method) : Variant :=
  ⟨m.typeName, valueName m, m.classId, some m.methodId, m.displayName⟩

/-- The variant of a header frame. -/
def headerVariant (h : Layout.Header) : Variant :=
  ⟨h.classTypeName, headerName h, h.classId, none, h.className⟩

/-- The union of all method frames. -/
def messages (options : Options) (methods : List Layout.Method) : Union where
  name := messageUnion
  doc := ["Every method frame the protocol defines, as returned by `decode_method`."]
  derives := options.unionDerives
  variants := methods.map methodVariant
  hasMethodId := true

/-- The union of all header frames. -/
def headers (options : Options) (headers : List Layout.Header) : Union where
  name := headerUnion
  doc := ["Every header frame the protocol defines, as returned by `decode_header`."]
  derives := options.unionDerives
  variants := headers.map headerVariant
  hasMethodId := false

/-! ## All types -/

/-- The types generated for a class. -/
def headerItems (options : Options) (h : Layout.Header) : List Item :=
  [.record (propertiesRecord options h), .record (headerRecord options h)]

/-- The types generated for a method. -/
def methodItems (options : Options) (m : Layout.Method) : List Item :=
  [.record (argsRecord options m), .record (valueRecord options m),
    .conversion (argsConversion m)]

/-- **All types**: those of the classes, those of the methods, and the two unions. -/
def typeItems (options : Options) (methods : List Layout.Method)
    (headers : List Layout.Header) : List Item :=
  headers.flatMap (headerItems options) ++ methods.flatMap (methodItems options) ++
    [.union (messages options methods), .union (Bindings.headers options headers)]

end FrameSchema.Bindings
