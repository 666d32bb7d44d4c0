import FrameSchema.Wire.Encoding
import FrameSchema.Wire.Reader

/-!
# Wire/FieldList — ordered fields, with neighbouring bits sharing octets

The body of a method frame is the list of its fields and nothing else: position is the only key.
Bits that stand next to each other are packed, the first into the lowest bit of an octet, eight to
an octet; any other field starts at a fresh octet and stands as `Value.encode` writes it.
-/

namespace FrameSchema.Wire

/-! ## Writing -/

/-- Bits waiting for their octet to fill up: the octet so far, and how many bits it holds. -/
structure PendingBits where
  octet : UInt8
  count : Nat
  deriving DecidableEq, Repr

namespace PendingBits

/-- No bit is waiting. -/
def none : PendingBits := ⟨0, 0⟩

/-- The octet that the waiting bits make, if there are any. -/
def flush (pending : PendingBits) : Octets :=
  if pending.count = 0 then [] else [pending.octet]

@[simp] theorem flush_none : none.flush = [] := rfl

/-- Adds a bit above those waiting. -/
def push (pending : PendingBits) (bit : Bool) : PendingBits where
  octet := if bit then pending.octet ||| (1 <<< UInt8.ofNat pending.count) else pending.octet
  count := pending.count + 1

end PendingBits

/-- Writes fields behind waiting bits. -/
def writeFieldsAfter : PendingBits → List Value → Written
  | pending, [] => .complete pending.flush
  | pending, .bit b :: rest =>
    if pending.count = 8 then .after pending.flush (writeFieldsAfter (PendingBits.none.push b) rest)
    else writeFieldsAfter (pending.push b) rest
  | pending, value :: rest =>
    match value.encode with
    | .ok octets => .after (pending.flush ++ octets) (writeFieldsAfter .none rest)
    | .error fault => .stopped pending.flush fault

/-- Writes a field list; a field that cannot be written ends the output in front of it. -/
def writeFields (values : List Value) : Written := writeFieldsAfter .none values

/-! ## Reading -/

/-- An octet of packed bits being read, and how many of its bits were taken. -/
structure BitCursor where
  octet : UInt8
  taken : Nat
  deriving DecidableEq, Repr

namespace BitCursor

/-- No octet of bits is open. -/
def none : BitCursor := ⟨0, 0⟩

/-- The cursor for the next bit: a fresh octet where none is open or the open one is used up. -/
def advance (cursor : BitCursor) : Read BitCursor :=
  if cursor.taken = 0 ∨ cursor.taken = 8 then return ⟨← readOctet, 0⟩ else return cursor

/-- The bit under the cursor. -/
def bit (cursor : BitCursor) : Bool := cursor.octet &&& (1 <<< UInt8.ofNat cursor.taken) != 0

end BitCursor

/-- Reads fields behind an octet of packed bits. -/
def readFieldsAfter : BitCursor → List Primitive → Read (List Value)
  | _, [] => return []
  | cursor, .bit :: kinds => do
    let cursor ← cursor.advance
    let rest ← readFieldsAfter ⟨cursor.octet, cursor.taken + 1⟩ kinds
    return .bit cursor.bit :: rest
  | _, kind :: kinds => do
    let value ← readValue maxTableDepth kind
    let rest ← readFieldsAfter .none kinds
    return value :: rest

/-- Reads one value for each kind. -/
def readFields (kinds : List Primitive) : Read (List Value) := readFieldsAfter .none kinds

end FrameSchema.Wire
