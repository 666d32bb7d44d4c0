import FrameSchema.Primitive

/-!
# Wire/Value — field values, and tables that are ordered by construction

A table maps texts to values.  `Entries floor` lists entries whose keys all exceed `floor` and
ascend strictly, the order being part of the type: a `Table` holds each key once, and two tables
with the same entries are equal, whatever the order of the insertions that built them.  Texts are
compared by code point, which is also the order of their UTF-8 encodings.
-/

namespace FrameSchema.Wire

/-- A key lies above a floor; above no floor lie all keys. -/
inductive Above : Option String → String → Prop where
  | all (key : String) : Above none key
  | over {low key : String} (lt : low < key) : Above (some low) key

mutual

/-- A typed field value. -/
inductive Value where
  | octet (v : UInt8)
  | short (v : UInt16)
  | long (v : UInt32)
  | longlong (v : UInt64)
  | bit (v : Bool)
  | shortstr (s : String)
  | longstr (s : String)
  | table (entries : Entries none)
  | timestamp (v : UInt64)
  deriving DecidableEq

/-- Table entries with strictly ascending keys, all above the floor. -/
inductive Entries : (floor : Option String) → Type where
  | nil {floor : Option String} : Entries floor
  | cons {floor : Option String} (key : String) (above : Above floor key) (value : Value)
      (rest : Entries (some key)) : Entries floor
  deriving DecidableEq

end

/-- A field table. -/
abbrev Table := Entries none

instance {floor : Option String} : Inhabited (Entries floor) := ⟨.nil⟩
instance : Inhabited Value := ⟨.octet 0⟩

theorem Above.trans {floor : Option String} {j k : String} (h : Above floor j) (hlt : j < k) :
    Above floor k :=
  match h with
  | .all _ => .all k
  | .over h => .over (String.lt_trans h hlt)

/-- Of two different keys that are not in one order, the other order holds. -/
theorem Above.of_not_lt {j k : String} (hlt : ¬k < j) (hne : k ≠ j) : Above (some j) k :=
  .over (Decidable.byContradiction fun h =>
    hne (String.le_antisymm (String.not_lt.1 h) (String.not_lt.1 hlt)))

namespace Entries

variable {floor : Option String}

/-- The entries as pairs, in key order. -/
def toList : {floor : Option String} → Entries floor → List (String × Value)
  | _, .nil => []
  | _, .cons key _ value rest => (key, value) :: rest.toList

/-- Puts an entry at its place; an entry with the same key gives way. -/
def insertAbove : {floor : Option String} → Entries floor → (key : String) → Above floor key →
    Value → Entries floor
  | _, .nil, k, hk, v => .cons k hk v .nil
  | _, .cons j hj w rest, k, hk, v =>
    if hlt : k < j then .cons k hk v (.cons j (.over hlt) w rest)
    else if heq : k = j then .cons j hj v rest
    else .cons j hj w (rest.insertAbove k (.of_not_lt hlt heq) v)

/-- The value stored under a key. -/
def get? : {floor : Option String} → Entries floor → String → Option Value
  | _, .nil, _ => none
  | _, .cons j _ w rest, k => if k = j then some w else rest.get? k

end Entries

namespace Table

/-- The table without entries. -/
def empty : Table := .nil

/-- Stores a value under a key, in place of an earlier one. -/
def insert (table : Table) (key : String) (value : Value) : Table :=
  Entries.insertAbove table key (.all key) value

/-- The table of a list of entries; a later entry replaces an earlier one with its key. -/
def ofList (entries : List (String × Value)) : Table :=
  entries.foldl (fun table entry => table.insert entry.1 entry.2) empty

end Table

namespace Value

/-- The kind of a value. -/
def primitive : Value → Primitive
  | octet _ => .octet
  | short _ => .short
  | long _ => .long
  | longlong _ => .longlong
  | bit _ => .bit
  | shortstr _ => .shortstr
  | longstr _ => .longstr
  | table _ => .table
  | timestamp _ => .timestamp

/-- The value of a kind that says nothing: zero, false, the empty text or the empty table. -/
def zero : Primitive → Value
  | .octet => octet 0
  | .short => short 0
  | .long => long 0
  | .longlong => longlong 0
  | .bit => bit false
  | .shortstr => shortstr ""
  | .longstr => longstr ""
  | .table => table Table.empty
  | .timestamp => timestamp 0

end Value

mutual

/-- How many tables lie inside one another, an empty table counting as one level. -/
def Value.tableDepth : Value → Nat
  | .table entries => entries.tableDepth + 1
  | _ => 0

/-- The deepest level reached by a value of the entries. -/
def Entries.tableDepth : {floor : Option String} → Entries floor → Nat
  | _, .nil => 0
  | _, .cons _ _ value rest => max value.tableDepth rest.tableDepth

end

/-! ## Storing and looking up -/

/-- An entry that is put among others answers under its key, and they under theirs. -/
theorem Entries.get?_insertAbove {floor : Option String} : ∀ (entries : Entries floor) (k : String)
    (hk : Above floor k) (v : Value) (i : String),
    (entries.insertAbove k hk v).get? i = if i = k then some v else entries.get? i
  | .nil, k, hk, v, i => by simp only [insertAbove, get?]
  | .cons j hj w rest, k, hk, v, i => by
      unfold insertAbove
      split
      · simp only [get?]
      · split
        · rename_i heq
          subst heq
          simp only [get?]
          split <;> rfl
        · rename_i hne
          simp only [get?]
          rw [get?_insertAbove rest k _ v i]
          by_cases hij : i = j
          · rw [if_pos hij, if_pos hij, if_neg (fun h : i = k => hne (h ▸ hij))]
          · rw [if_neg hij, if_neg hij]

/-- **A table answers with the value stored last.** -/
@[simp] theorem Table.get?_insert (table : Table) (k : String) (v : Value) (i : String) :
    (table.insert k v).get? i = if i = k then some v else table.get? i :=
  Entries.get?_insertAbove table k (.all k) v i

end FrameSchema.Wire
