import FrameSchema.Identifier
import FrameSchema.Schema.Check

/-!
# Layout — the fields of every frame, in wire order, with their kinds settled

Position is the only key on the wire.  Generated code and the codec both take the fields of a frame
from its layout, so they agree on the order by construction.
-/

namespace FrameSchema.Layout

/-- A field of a frame. -/
structure Field where
  name : String
  primitive : Primitive
  default : Option Schema.Default
  deriving DecidableEq, Repr

namespace Field

/-- The key of the field's value in the codec. -/
def key (field : Field) : String := Identifier.lowerCamel field.name

/-- The field's name in generated code. -/
def ident (field : Field) : String := Identifier.snake field.name

end Field

/-- The frame of a method. -/
structure Method where
  classId : UInt16
  methodId : UInt16
  className : String
  methodName : String
  synchronous : Bool
  content : Bool
  response : Option String
  fields : List Field
  deriving DecidableEq, Repr

namespace Method

/-- The kinds of the fields. -/
def types (m : Method) : List Primitive := m.fields.map (·.primitive)

/-- The type that holds all fields. -/
def typeName (m : Method) : String := Identifier.methodTypeName m.className m.methodName

/-- The common part of the names of the method's functions. -/
def stem (m : Method) : String := Identifier.methodStem m.className m.methodName

/-- The name under which the codec and messages know the method. -/
def displayName (m : Method) : String := m.className ++ "." ++ m.methodName

/-- The layout of a method of a class. -/
def ofMethod (model : Schema.Model) (c : Schema.Class) (m : Schema.Method) :
    Except Schema.Error Method := do
  let fields ← m.arguments.mapM fun a => return (⟨a.name, ← model.resolve a, a.default⟩ : Field)
  return ⟨c.id, m.id, c.name, m.name, m.synchronous, m.content, m.response, fields⟩

end Method

/-- The header frame of a class. -/
structure Header where
  classId : UInt16
  className : String
  fields : List Field
  deriving DecidableEq, Repr

namespace Header

/-- The kinds of the fields. -/
def types (h : Header) : List Primitive := h.fields.map (·.primitive)

/-- The class's part of type names. -/
def classTypeName (h : Header) : String := Identifier.typeName h.className

/-- The common part of the names of the header's functions. -/
def stem (h : Header) : String := Identifier.headerStem h.className

/-- The layout of a class's header. -/
def ofClass (c : Schema.Class) : Header :=
  ⟨c.id, c.name, c.properties.map fun p => ⟨p.name, p.primitive, none⟩⟩

end Header

/-- The layouts of all methods, in schema order. -/
def methods (model : Schema.Model) : Except Schema.Error (List Method) := do
  let perClass ← model.classes.mapM fun c => c.methods.mapM (Method.ofMethod model c)
  return perClass.flatten

/-- The layouts of all headers, in schema order. -/
def headers (model : Schema.Model) : List Header := model.classes.map Header.ofClass

end FrameSchema.Layout
