import FrameSchema.Json.Scan

/-!
# Json/Text — string literals

A string that is kept has all its escapes decoded, so half of a surrogate pair is refused.  Of a
string that is passed over only the form of the escapes is looked at.
-/

namespace FrameSchema.Json

/-- The value of a hexadecimal digit. -/
def hexDigit? (c : Char) : Option Nat :=
  if '0' ≤ c && c ≤ '9' then some (c.toNat - '0'.toNat)
  else if 'a' ≤ c && c ≤ 'f' then some (c.toNat - 'a'.toNat + 10)
  else if 'A' ≤ c && c ≤ 'F' then some (c.toNat - 'A'.toNat + 10)
  else none

/-- The number of four hexadecimal digits.  A text with fewer than four octets left has ended; with
more it has to continue with digits. -/
def readHex4 : Scan Nat := do
  let cursor ← get
  let digits := cursor.rest.take 4
  if (String.ofList digits).utf8ByteSize < 4 then throw .ended
  match digits.mapM hexDigit? with
  | some [a, b, c, d] =>
    set { cursor with rest := cursor.rest.drop 4 }
    return ((a * 16 + b) * 16 + c) * 16 + d
  | _ => throw .malformed

/-- Whether a number is the first half of a surrogate pair. -/
def isLeading (n : Nat) : Bool := 0xd800 ≤ n && n < 0xdc00

/-- Whether a number is the second half of a surrogate pair. -/
def isTrailing (n : Nat) : Bool := 0xdc00 ≤ n && n < 0xe000

/-- The character of a code escape, behind its `u`. -/
def readCodeEscape : Scan Char := do
  let first ← readHex4
  if isTrailing first then throw .malformed
  if isLeading first then
    literal ['\\', 'u']
    let second ← readHex4
    if isTrailing second then
      return Char.ofNat (0x10000 + (first - 0xd800) * 0x400 + (second - 0xdc00))
    else throw .malformed
  else return Char.ofNat first

/-- The characters of the escapes of one letter. -/
def simpleEscape? : Char → Option Char
  | '"' => some '"'
  | '\\' => some '\\'
  | '/' => some '/'
  | 'b' => some '\x08'
  | 'f' => some '\x0c'
  | 'n' => some '\n'
  | 'r' => some '\r'
  | 't' => some '\t'
  | _ => none

/-- The character of an escape, behind its backslash. -/
def readEscape : Scan Char := do
  let c ← next
  match simpleEscape? c with
  | some decoded => return decoded
  | none => if c = 'u' then readCodeEscape else throw .malformed

/-- Passes over an escape, behind its backslash. -/
def skipEscape : Scan Unit := do
  let c ← next
  if c = 'u' then let _ ← readHex4
  else if (simpleEscape? c).isNone then throw .malformed

/-- Reads up to the closing quote, given what to do with an escape and with the characters
collected so far, last first. -/
def readStringBody (escape : List Char → Scan (List Char)) : Scan (List Char) :=
  loop (fun chars => do
    let c ← next
    if c = '"' then return .inr chars
    else if c = '\\' then return .inl (← escape chars)
    else if c.toNat < 0x20 then throw .malformed
    else return .inl (c :: chars)) []

/-- A string literal, from its opening quote on. -/
def readString : Scan String := do
  literal ['"']
  let chars ← readStringBody fun chars => return (← readEscape) :: chars
  return String.ofList chars.reverse

/-- Passes over a string literal, from its opening quote on. -/
def skipString : Scan Unit := do
  literal ['"']
  let _ ← readStringBody fun chars => do skipEscape; return chars

end FrameSchema.Json
