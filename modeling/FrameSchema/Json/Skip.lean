import FrameSchema.Json.Number
import FrameSchema.Json.Text

/-!
# Json/Skip — passing over a value of any depth

The members that a schema does not know may hold any well-formed value.  The open brackets are kept
in a list, so their number is not limited.
-/

namespace FrameSchema.Json

/-- An open bracket. -/
inductive Bracket where
  | list | object
  deriving DecidableEq, Repr

/-- The character that closes a bracket. -/
def Bracket.closing : Bracket → Char
  | list => ']'
  | object => '\x7d'

/-- Where in a value the reader stands: a value has to follow, or one was just passed. -/
inductive SkipPoint where
  | value
  | passed

/-- The colon between a key and its value. -/
def readColon : Scan Unit := do
  if (← peek) = ':' then advance else throw .malformed

/-- Passes over the key of a member of an object, up to the value. -/
def skipKey : Scan Unit := do
  if (← peek) = '"' then skipString else throw .malformed
  readColon

/-- Goes on to the next value inside the innermost open bracket. -/
def skipToValue : List Bracket → Scan (List Bracket × SkipPoint)
  | .object :: outer => do skipKey; return (.object :: outer, .value)
  | brackets => return (brackets, .value)

/-- Opens a bracket, and closes it again if nothing is inside. -/
def skipOpening (bracket : Bracket) (outer : List Bracket) : Scan (List Bracket × SkipPoint) := do
  advance
  if (← peek) = bracket.closing then
    advance
    return (outer, .passed)
  else skipToValue (bracket :: outer)

/-- Passes over a scalar, or into a list or object. -/
def skipScalar (brackets : List Bracket) : Scan (List Bracket × SkipPoint) := do
  match ← peek with
  | 'n' => literal ['n', 'u', 'l', 'l']; return (brackets, .passed)
  | 't' => literal ['t', 'r', 'u', 'e']; return (brackets, .passed)
  | 'f' => literal ['f', 'a', 'l', 's', 'e']; return (brackets, .passed)
  | '"' => skipString; return (brackets, .passed)
  | '[' => skipOpening .list brackets
  | '\x7b' => skipOpening .object brackets
  | c =>
    if c = '-' || c.isDigit then skipNumber; return (brackets, .passed)
    else throw .malformed

/-- One step over a value: the open brackets, innermost first, and the place reached. -/
def skipStep : List Bracket × SkipPoint → Scan ((List Bracket × SkipPoint) ⊕ Unit)
  | (brackets, .value) => return .inl (← skipScalar brackets)
  | ([], .passed) => return .inr ()
  | (bracket :: outer, .passed) => do
    let c ← peek
    if c = bracket.closing then
      advance
      return .inl (outer, .passed)
    else if c = ',' then
      advance
      return .inl (← skipToValue (bracket :: outer))
    else throw .malformed

/-- Passes over a value. -/
def skipValue : Scan Unit := loop skipStep ([], .value)

end FrameSchema.Json
