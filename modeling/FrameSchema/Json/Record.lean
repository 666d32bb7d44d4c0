import FrameSchema.Json.Value

/-!
# Json/Record — values of a declared shape

Readers for what schema documents are made of: texts, truth values, integers in a range, lists, and
records.  Where another value stands than the shape calls for, a scalar is still read to its end, so
that a malformed scalar is told as malformed and a whole one as misshapen.

A record is an object, or a list of its members' values in declaration order.  An object may have
the members in any order, at most once each, and others besides, which are passed over; a list may
end before the members that need not be there.
-/

namespace FrameSchema.Json

/-- Refuses the value that starts with a character, after reading a scalar to its end. -/
def mismatch {α : Type} (c : Char) : Scan α := do
  match c with
  | '[' | '\x7b' => pure ()
  | _ => let _ ← readValueWith none
  throw .misshapen

/-- A text. -/
def readText : Scan String := do
  let c ← peek
  if c = '"' then readString else mismatch c

/-- A truth value. -/
def readBool : Scan Bool := do
  match ← peek with
  | 't' => literal ['t', 'r', 'u', 'e']; return true
  | 'f' => literal ['f', 'a', 'l', 's', 'e']; return false
  | c => mismatch c

/-- An integer between two bounds. -/
def readInteger (low high : Int) : Scan Int := do
  let c ← peek
  if c = '-' || c.isDigit then
    match ← readNumber with
    | .integer n => if low ≤ n && n ≤ high then return n else throw .misshapen
    | .real => throw .misshapen
  else mismatch c

/-- A value that may be written as `null`. -/
def readOptional {α : Type} (value : Scan α) : Scan (Option α) := do
  match ← peek? with
  | some 'n' => literal ['n', 'u', 'l', 'l']; return none
  | _ => return some (← value)

/-- A list; its items may open one bracket less. -/
def readList {α : Type} (item : (levels : Nat) → Scan α) : (levels : Nat) → Scan (List α)
  | levels => do
    let c ← peek
    if c = '[' then
      match levels with
      | 0 => throw .malformed
      | levels + 1 => readItems (item levels)
    else mismatch c

/-- A member of a record: its key, whether it has to be there, and how its value goes into the
record under construction. -/
structure Member (σ : Type) where
  key : String
  required : Bool
  read : σ → Scan σ

/-- A member that has to be there. -/
def Member.needed {σ α : Type} (key : String) (read : Scan α) (store : σ → α → σ) : Member σ :=
  ⟨key, true, fun record => return store record (← read)⟩

/-- A member that may be left out. -/
def Member.optional {σ α : Type} (key : String) (read : Scan α) (store : σ → α → σ) : Member σ :=
  ⟨key, false, fun record => return store record (← read)⟩

/-- The values of members in declaration order. -/
def readRow {σ : Type} : (first : Bool) → List (Member σ) → σ → Scan σ
  | _, [], record => return record
  | first, member :: members, record => do
    if ← hasItem first then readRow false members (← member.read record)
    else if (member :: members).any (·.required) then throw .misshapen
    else return record

/-- A member of a record written as an object, behind its key: the keys seen so far and the record
under construction. -/
def readMember {σ : Type} (members : List (Member σ)) (key : String) :
    List String × σ → Scan (List String × σ)
  | (seen, record) =>
    match members.find? (·.key == key) with
    | some member =>
      if seen.contains key then throw .misshapen
      else do
        readColon
        return (key :: seen, ← member.read record)
    | none => do
      readColon
      skipValue
      return (seen, record)

/-- A record; its members may open one bracket less. -/
def readRecord {σ : Type} (members : (levels : Nat) → List (Member σ)) (blank : σ) :
    (levels : Nat) → Scan σ
  | levels => do
    let c ← peek
    match levels, c with
    | 0, '[' | 0, '\x7b' => throw .malformed
    | levels + 1, '[' =>
      advance
      let record ← readRow true (members levels) blank
      endList
      return record
    | levels + 1, '\x7b' =>
      let members := members levels
      let (seen, record) ← readMembers (readMember members) ([], blank)
      if members.any fun member => member.required && !seen.contains member.key then
        throw .misshapen
      return record
    | _, c => mismatch c

end FrameSchema.Json
