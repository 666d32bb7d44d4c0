import FrameSchema.Schema.Model
import FrameSchema.Wire.Value

/-!
# Schema/Default — which defaults suit a kind, and the values they stand for
-/

namespace FrameSchema.Schema.Default

/-- Whether a default can stand for a value of a kind without loss: numbers in the kind's range,
texts where the wire has room for them. -/
def fits : Default → Primitive → Bool
  | int v, .octet => 0 ≤ v && v ≤ 255
  | int v, .short => 0 ≤ v && v ≤ 65535
  | int v, .long => 0 ≤ v && v ≤ 4294967295
  | int v, .longlong | int v, .timestamp => 0 ≤ v
  | int v, .bit => v == 0 || v == 1
  | bool _, .bit => true
  | str s, .shortstr => s.utf8ByteSize ≤ 255
  | str _, .longstr => true
  | emptyTable, .table => true
  | _, _ => false

/-- The value that a default stands for.  A number keeps the low bits that its kind has room for,
any number but zero is a set bit, and a default of another nature gives the kind's zero. -/
def value : Default → Primitive → Wire.Value
  | int v, .octet => .octet v.toUInt64.toUInt8
  | int v, .short => .short v.toUInt64.toUInt16
  | int v, .long => .long v.toUInt64.toUInt32
  | int v, .longlong => .longlong v.toUInt64
  | int v, .timestamp => .timestamp v.toUInt64
  | int v, .bit => .bit (v != 0)
  | bool b, .bit => .bit b
  | str s, .shortstr => .shortstr s
  | str s, .longstr => .longstr s
  | emptyTable, .table => .table Wire.Table.empty
  | _, kind => .zero kind

/-- The value of a default is of the kind asked for. -/
@[simp] theorem primitive_value (d : Default) (p : Primitive) : (d.value p).primitive = p := by
  cases d <;> cases p <;> rfl

end FrameSchema.Schema.Default
