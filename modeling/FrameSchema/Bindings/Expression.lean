import FrameSchema.Bindings.Declaration
import FrameSchema.Text.Quoted

/-!
# Bindings/Expression — how generated code reaches the value of a field

An encoder turns each field of its record into a value of the wire.  A field with a default is
unwrapped with the default in its place: numbers and truth values stand as literals, a text is made
from a quoted literal, and what the type's own default is already needs no literal.
-/

namespace FrameSchema.Bindings

/-- A truth value as a literal. -/
def truthLiteral (b : Bool) : String := if b then "true" else "false"

/-- A number as a literal. -/
def numberLiteral (v : Int64) : String := toString v.toInt

/-- The literal of a default, unless it is the default of the type itself. -/
def defaultLiteral? : Schema.Default → Primitive → Option String
  | .int v, .bit => some (truthLiteral (v != 0))
  | .int v, _ => some (numberLiteral v)
  | .bool b, _ => some (truthLiteral b)
  | .str s, _ => if s.isEmpty then none else some ("String::from(" ++ Text.quote s ++ ")")
  | .emptyTable, _ => none

/-- The call that puts a default in the place of an empty field; owned values are made only when
they are needed. -/
def unwrapCall (needsClone : Bool) : Option String → String
  | some literal =>
    if needsClone then ".unwrap_or_else(|| " ++ literal ++ ")"
    else ".unwrap_or(" ++ literal ++ ")"
  | none => ".unwrap_or_default()"

/-- A field of a record, cloned if it cannot be copied. -/
def fieldAccess (owner ident : String) (storage : Storage) : String :=
  owner ++ "." ++ ident ++ if storage.needsClone then ".clone()" else ""

/-- The value of a method's field, with its default put in. -/
def encodeExpr (owner : String) (f : EncodeField) : String :=
  let unwrap :=
    match f.default with
    | some d => unwrapCall f.primitive.storage.needsClone (defaultLiteral? d f.primitive)
    | none => ""
  "FieldValue::" ++ f.primitive.variant ++ "(" ++
    fieldAccess owner f.ident f.primitive.storage ++ unwrap ++ ")"

/-- The value of a property, absent if the field is empty. -/
def optionalExpr (f : EncodeField) : String :=
  fieldAccess "properties" f.ident f.primitive.storage ++ ".map(FieldValue::" ++
    f.primitive.variant ++ ")"

end FrameSchema.Bindings
