import FrameSchema.Primitive

/-!
# Wire/Error — why a frame cannot be written or read

One constructor a cause, with the data its message needs; `Error.message` is the only place where a
cause is put into words, and `Error.isInput` tells the two causes that more input could cure.
-/

namespace FrameSchema.Wire

/-- The causes for which a field, a table or a frame cannot be written or read. -/
inductive Error where
  /-- The input ends inside a number, a tag or a length. -/
  | endOfInput
  /-- A declared length is larger than what is left of the input. -/
  | lengthPastEnd
  | shortStringTooLong (octets : Nat)
  | longStringTooLong (octets : Nat)
  | tableTooLong (octets : Nat)
  | tableTooDeep (limit : Nat)
  /-- The last entry of a table ends behind the table's declared end. -/
  | tableOverrun
  | typeMismatch (expected : Storage) (found : Primitive)
  | missingField (position : Nat)
  | unknownTag (tag : UInt8)
  | invalidUtf8
  | unknownClass (classId : UInt16)
  | unknownMethod (classId methodId : UInt16)
  deriving DecidableEq, Repr

namespace Error

/-- Whether the input was too short; every other cause condemns the octets already read. -/
def isInput : Error → Bool
  | endOfInput | lengthPastEnd => true
  | _ => false

/-- An octet as two hexadecimal digits. -/
def hexOctet (octet : UInt8) : String :=
  String.ofList [Nat.digitChar (octet.toNat / 16), Nat.digitChar (octet.toNat % 16)]

/-- The wording of a cause. -/
def message : Error → String
  | endOfInput => "IO: failed to fill whole buffer"
  | lengthPastEnd => "IO: unexpected end of file"
  | shortStringTooLong n => s!"Short string too long: {n} bytes"
  | longStringTooLong n => s!"Long string too long: {n} bytes"
  | tableTooLong n => s!"Table too long: {n} bytes"
  | tableTooDeep n => s!"Tables nested deeper than {n} levels"
  | tableOverrun => "Table entry runs past the declared table length"
  | typeMismatch expected found =>
    s!"Type mismatch: expected {expected.kinds}, found {found.name}"
  | missingField n => s!"Missing field at position {n}"
  | unknownTag tag => s!"Unknown table value tag: 0x{hexOctet tag}"
  | invalidUtf8 => "Invalid UTF-8 in string field"
  | unknownClass c => s!"Unknown class: {c.toNat}"
  | unknownMethod c m => s!"Unknown method: class {c.toNat}, method {m.toNat}"

end Error

end FrameSchema.Wire
