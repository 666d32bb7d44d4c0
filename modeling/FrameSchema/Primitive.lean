/-!
# Primitive — the nine kinds of field value, and how a binding stores them

A schema speaks of field kinds by name (`Primitive.name`, read back by `Primitive.ofName?`);
generated code spells the same kinds as variant names (`Primitive.variant`) and keeps a value of
each in one of seven storage types (`Primitive.storage`).
-/

namespace FrameSchema

/-- The types generated code keeps field values in. -/
inductive Storage where
  | u8 | u16 | u32 | u64 | bool | text | table
  deriving DecidableEq, Repr

namespace Storage

/-- The name of the type in the schema's own notation. -/
def name : Storage → String
  | u8 => "u8"
  | u16 => "u16"
  | u32 => "u32"
  | u64 => "u64"
  | bool => "bool"
  | text => "text"
  | table => "table"

/-- The storage types, in declaration order. -/
def all : List Storage := [u8, u16, u32, u64, bool, text, table]

/-- The storage type of a name. -/
def ofName? (s : String) : Option Storage := all.find? (·.name == s)

/-- How the type is written in generated Rust. -/
def rustType : Storage → String
  | u8 => "u8"
  | u16 => "u16"
  | u32 => "u32"
  | u64 => "u64"
  | bool => "bool"
  | text => "String"
  | table => "FieldTable"

/-- Whether a value has to be cloned to leave a borrowed struct: text and tables own memory. -/
def needsClone : Storage → Bool
  | text | table => true
  | _ => false

/-- The field kinds stored in a type, as an error message lists them. -/
def kinds : Storage → String
  | u8 => "octet"
  | u16 => "short"
  | u32 => "long"
  | u64 => "longlong or timestamp"
  | bool => "bit"
  | text => "shortstr or longstr"
  | table => "table"

end Storage

/-- The kinds of value a field can hold. -/
inductive Primitive where
  | octet | short | long | longlong | bit | shortstr | longstr | table | timestamp
  deriving DecidableEq, Repr

namespace Primitive

/-- The kinds, in declaration order. -/
def all : List Primitive :=
  [octet, short, long, longlong, bit, shortstr, longstr, table, timestamp]

/-- The name of a kind in schemas and messages. -/
def name : Primitive → String
  | octet => "octet"
  | short => "short"
  | long => "long"
  | longlong => "longlong"
  | bit => "bit"
  | shortstr => "shortstr"
  | longstr => "longstr"
  | table => "table"
  | timestamp => "timestamp"

/-- The kind of a name; names are compared as written. -/
def ofName? (s : String) : Option Primitive := all.find? (·.name == s)

/-- Every kind is found by its own name. -/
@[simp] theorem ofName?_name : ∀ p : Primitive, ofName? p.name = some p
  | octet | short | long | longlong | bit | shortstr | longstr | table | timestamp => by decide

/-- The variant a kind has in the enumerations that generated code uses. -/
def variant : Primitive → String
  | octet => "Octet"
  | short => "Short"
  | long => "Long"
  | longlong => "LongLong"
  | bit => "Bit"
  | shortstr => "ShortStr"
  | longstr => "LongStr"
  | table => "Table"
  | timestamp => "Timestamp"

/-- The type generated code stores a kind in. -/
def storage : Primitive → Storage
  | octet => .u8
  | short => .u16
  | long => .u32
  | longlong | timestamp => .u64
  | bit => .bool
  | shortstr | longstr => .text
  | table => .table

/-- The octet that announces a kind inside a field table. -/
def tag : Primitive → UInt8
  | octet => 66      -- 'B'
  | short => 117     -- 'u'
  | long => 105      -- 'i'
  | longlong => 108  -- 'l'
  | bit => 116       -- 't'
  | shortstr => 115  -- 's'
  | longstr => 83    -- 'S'
  | table => 70      -- 'F'
  | timestamp => 84  -- 'T'

/-- The kind announced by an octet. -/
def ofTag? (octet : UInt8) : Option Primitive := all.find? (·.tag == octet)

/-- **No two kinds share a tag**, so a tag announces the kind it was written for. -/
@[simp] theorem ofTag?_tag : ∀ p : Primitive, ofTag? p.tag = some p
  | octet | short | long | longlong | bit | shortstr | longstr | table | timestamp => by decide

end Primitive

end FrameSchema
