import FrameSchema.Json.Skip

/-!
# Json/Value — lists, objects and whole values

`readValue` reads a value that is kept, up to a given number of brackets inside one another.  Its
parts serve all readers: `hasItem` and `hasMember` stand before an item of a list and before the key
of a member, and tell whether there is one.
-/

namespace FrameSchema.Json

/-- A JSON value. -/
inductive Value where
  | null
  | bool (value : Bool)
  | number (value : Number)
  | string (value : String)
  | list (items : List Value)
  | object (members : List (String × Value))

/-! ## Lists -/

/-- Whether another item follows in a list; the comma in front of it is consumed. -/
def hasItem (first : Bool) : Scan Bool := do
  let c ← peek
  if c = ']' then return false
  else if first then return true
  else if c = ',' then
    advance
    if (← peek) = ']' then throw .malformed else return true
  else throw .malformed

/-- The closing bracket of a list: nothing else may stand here. -/
def endList : Scan Unit := do
  if (← peek) = ']' then advance else throw .malformed

/-- The items of a list, from its opening bracket on. -/
def readItems {α : Type} (item : Scan α) : Scan (List α) := do
  literal ['[']
  let items ← loop (fun (items : List α) => do
    if ← hasItem items.isEmpty then return .inl ((← item) :: items)
    else return .inr items) []
  endList
  return items.reverse

/-! ## Objects -/

/-- Whether another member follows in an object; the comma in front of its key is consumed. -/
def hasMember (first : Bool) : Scan Bool := do
  let c ← peek
  if c = '\x7d' then return false
  else if first then
    if c = '"' then return true else throw .malformed
  else if c = ',' then
    advance
    if (← peek) = '"' then return true else throw .malformed
  else throw .malformed

/-- The members of an object, from its opening bracket on, each read by a function of its key. -/
def readMembers {σ : Type} (member : String → σ → Scan σ) (start : σ) : Scan σ := do
  literal ['\x7b']
  let (_, result) ← loop (fun (first, state) => do
    if ← hasMember first then
      let key ← readString
      return .inl (false, ← member key state)
    else return .inr (false, state)) (true, start)
  advance
  return result

/-! ## Values -/

/-- A value whose items and members are read by `nested`, if another bracket may be opened. -/
def readValueWith (nested : Option (Scan Value)) : Scan Value := do
  match ← peek with
  | 'n' => literal ['n', 'u', 'l', 'l']; return .null
  | 't' => literal ['t', 'r', 'u', 'e']; return .bool true
  | 'f' => literal ['f', 'a', 'l', 's', 'e']; return .bool false
  | '"' => return .string (← readString)
  | '[' =>
    match nested with
    | some item => return .list (← readItems item)
    | none => throw .malformed
  | '\x7b' =>
    match nested with
    | some item =>
      let members ← readMembers (fun key members => do
        readColon
        return (key, ← item) :: members) []
      return .object members.reverse
    | none => throw .malformed
  | c => if c = '-' || c.isDigit then return .number (← readNumber) else throw .malformed

/-- A value with at most `levels` brackets inside one another. -/
def readValue : (levels : Nat) → Scan Value
  | 0 => readValueWith none
  | levels + 1 => readValueWith (some (readValue levels))

end FrameSchema.Json
