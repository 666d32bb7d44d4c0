import FrameSchema.Octets
import FrameSchema.Wire.Error
import FrameSchema.Wire.Value

/-!
# Wire/Reader — a cursor over received octets, and single values read from it

A `Reader` holds the octets not yet read and counts those already read.  Its operations keep the
cursor when they fail, so that a caller sees how far a bad frame could be followed:

* a number that the input cuts off takes the cursor to the end of the input;
* a text or table that claims more octets than are left stops right behind its length;
* every other failure stops behind what was read.

Tables are read in place.  `readValue` counts the table levels that may still be opened, so nesting
beyond `maxTableDepth` is refused before the table's length is looked at.
-/

namespace FrameSchema.Wire

/-- How many tables may lie inside one another. -/
def maxTableDepth : Nat := 64

/-- A cursor: the octets ahead, and the number of those behind. -/
structure Reader where
  position : Nat
  rest : Octets
  deriving DecidableEq, Repr

namespace Reader

/-- A cursor in front of all octets. -/
def ofOctets (octets : Octets) : Reader := ⟨0, octets⟩

/-- How many octets are ahead. -/
def remaining (reader : Reader) : Nat := reader.rest.length

end Reader

/-- A reading operation: it moves a cursor, and gives a result or a fault. -/
abbrev Read := EStateM Error Reader

/-- The next `count` octets; if fewer are left, all of them are passed over. -/
def readExactly (count : Nat) : Read Octets := fun reader =>
  let taken := reader.rest.take count
  let next : Reader := ⟨reader.position + taken.length, reader.rest.drop count⟩
  if taken.length = count then .ok taken next else .error .endOfInput next

/-- A number of `width` octets. -/
def readNat (width : Nat) : Read Nat := return Octets.toNat (← readExactly width)

def readOctet : Read UInt8 := return UInt8.ofNat (← readNat 1)

def readShort : Read UInt16 := return UInt16.ofNat (← readNat 2)

def readLong : Read UInt32 := return UInt32.ofNat (← readNat 4)

def readLonglong : Read UInt64 := return UInt64.ofNat (← readNat 8)

/-- Refuses a length that reaches past the input, without moving. -/
def checkLength (count : Nat) : Read Unit := fun reader =>
  if count ≤ reader.remaining then .ok () reader else .error .lengthPastEnd reader

/-- A text of `count` octets. -/
def readText (count : Nat) : Read String := do
  checkLength count
  let octets ← readExactly count
  match Octets.toText? octets with
  | some text => return text
  | none => throw .invalidUtf8

/-- A text behind a one-octet length. -/
def readShortString : Read String := do readText (← readNat 1)

/-- A text behind a four-octet length. -/
def readLongString : Read String := do readText (← readNat 4)

/-- The kind announced by the next octet. -/
def readTag : Read Primitive := do
  let tag ← readOctet
  match Primitive.ofTag? tag with
  | some kind => return kind
  | none => throw (.unknownTag tag)

/-- Adds the entries that start before `stop`.  The budget counts entries still allowed; since an
entry is not empty, as many as the table has octets are always enough. -/
def readEntries (readNested : Primitive → Read Value) (stop : Nat) :
    (budget : Nat) → Table → Read Table
  | 0, table => return table
  | budget + 1, table => do
    if (← get).position < stop then
      let key ← readShortString
      let kind ← readTag
      let value ← readNested kind
      readEntries readNested stop budget (table.insert key value)
    else
      return table

/-- A table: its length in octets, then entries up to exactly that length. -/
def readTable (readNested : Primitive → Read Value) : Read Table := do
  let length ← readNat 4
  checkLength length
  let stop := (← get).position + length
  let table ← readEntries readNested stop length .empty
  if (← get).position = stop then return table else throw .tableOverrun

/-- A value of a kind, standing alone, with `levels` table levels left to open. -/
def readValue : (levels : Nat) → Primitive → Read Value
  | _, .octet => return .octet (← readOctet)
  | _, .short => return .short (← readShort)
  | _, .long => return .long (← readLong)
  | _, .longlong => return .longlong (← readLonglong)
  | _, .timestamp => return .timestamp (← readLonglong)
  | _, .bit => return .bit ((← readOctet) != 0)
  | _, .shortstr => return .shortstr (← readShortString)
  | _, .longstr => return .longstr (← readLongString)
  | 0, .table => throw (.tableTooDeep maxTableDepth)
  | levels + 1, .table => return .table (← readTable (readValue levels))

end FrameSchema.Wire
