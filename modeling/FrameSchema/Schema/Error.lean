import FrameSchema.Primitive
import FrameSchema.Text.Quoted

/-!
# Schema/Error — why a model is refused

Each cause carries the names its message shows; two names that clash are told with the schema names
that produced them.
-/

namespace FrameSchema.Schema

/-- The kinds of generated name that have to be distinct. -/
inductive NameKind where
  | type | function | constant | field | fieldKey
  deriving DecidableEq, Repr

/-- The kind as messages name it. -/
def NameKind.name : NameKind → String
  | type => "type"
  | function => "function"
  | constant => "constant"
  | field => "field"
  | fieldKey => "field key"

/-- The causes for which a model, or the document it is read from, is refused. -/
inductive Error where
  | unresolvedType (className method argument : String)
  | unknownDomain (domain argument : String)
  | unknownPrimitive (name : String)
  | duplicateClassId (id : UInt16) (first second : String)
  | duplicateMethodId (className : String) (id : UInt16) (first second : String)
  | duplicateDomain (name : String)
  | unknownResponse (className method response : String)
  /-- `expected` names a kind, or the sort of literal that was called for. -/
  | incompatibleDefault (argument expected : String)
  | invalidIdentifier (name : String)
  | duplicateName (kind : NameKind) (name first second : String)
  deriving DecidableEq, Repr

/-- The wording of a cause. -/
def Error.message : Error → String
  | unresolvedType c m a =>
    s!"Unresolved type: argument {a} of {c}.{m} has neither a type nor a domain"
  | unknownDomain d a => s!"Unknown domain: {d} (argument {a})"
  | unknownPrimitive n => s!"Unknown primitive type: {n}"
  | duplicateClassId id a b => s!"Duplicate class id {id.toNat}: {a} and {b}"
  | duplicateMethodId c id a b => s!"Duplicate method id {id.toNat} in class {c}: {a} and {b}"
  | duplicateDomain n => s!"Duplicate domain: {n}"
  | unknownResponse c m r => s!"Method {c}.{m} names unknown response method {r}"
  | incompatibleDefault a e => s!"Default value for {a} is not a valid {e}"
  | invalidIdentifier n => s!"Invalid identifier: {Text.quote n}"
  | duplicateName k n a b =>
    s!"Name collision: {k.name} `{n}` is produced by both {a} and {b}"

end FrameSchema.Schema
