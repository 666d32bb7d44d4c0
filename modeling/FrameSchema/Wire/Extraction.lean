import FrameSchema.Wire.Error
import FrameSchema.Wire.Value

/-!
# Wire/Extraction — taking decoded values one by one, at declared types

`Fields` is a list of decoded values with a cursor.  Each `take` names the type it wants: one of the
storage types, which accepts the kinds stored in it, or `Target.any`.  A value is consumed also when
it turns out to be of another type.
-/

namespace FrameSchema.Wire

/-- What a caller wants a value as. -/
inductive Target where
  | stored (storage : Storage)
  | any
  deriving DecidableEq, Repr

/-- The values of a storage type. -/
abbrev StoredValue : Storage → Type
  | .u8 => UInt8
  | .u16 => UInt16
  | .u32 => UInt32
  | .u64 => UInt64
  | .bool => Bool
  | .text => String
  | .table => Table

/-- The values of a target type. -/
abbrev Target.Carrier : Target → Type
  | .stored storage => StoredValue storage
  | .any => Value

/-- The payload of a value, with the storage type of its kind. -/
def Value.payload : (value : Value) → StoredValue value.primitive.storage
  | .octet v => v
  | .short v => v
  | .long v => v
  | .longlong v => v
  | .bit v => v
  | .shortstr s => s
  | .longstr s => s
  | .table entries => entries
  | .timestamp v => v

/-- The value as a target type: itself, or its payload if that is what the target stores. -/
def Value.as : (target : Target) → Value → Except Error target.Carrier
  | .any, value => .ok value
  | .stored storage, value =>
    if h : value.primitive.storage = storage then .ok (h ▸ value.payload)
    else .error (.typeMismatch storage value.primitive)

/-- Values not yet taken, and how many were. -/
structure Fields (α : Type) where
  rest : List α
  taken : Nat

namespace Fields

/-- A cursor in front of all values. -/
def ofList {α : Type} (values : List α) : Fields α := ⟨values, 0⟩

/-- The next value, if one is left. -/
def next {α : Type} (fields : Fields α) : Except Error α × Fields α :=
  match fields.rest with
  | [] => (.error (.missingField fields.taken), fields)
  | value :: rest => (.ok value, ⟨rest, fields.taken + 1⟩)

/-- Takes the next value as a target type. -/
def take (target : Target) (fields : Fields Value) :
    Except Error target.Carrier × Fields Value :=
  let (value, fields) := fields.next
  (value.bind (Value.as target), fields)

/-- Takes the next value, where it is present, as a target type. -/
def takeOptional (target : Target) (fields : Fields (Option Value)) :
    Except Error (Option target.Carrier) × Fields (Option Value) :=
  let (value, fields) := fields.next
  (value.bind fun
    | none => .ok none
    | some value => some <$> value.as target, fields)

end Fields

end FrameSchema.Wire
