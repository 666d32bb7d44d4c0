import FrameSchema.Proofs.Wire.FieldListRoundTrip
import FrameSchema.Wire.OptionalFieldList

/-!
# Proofs/Wire/Parametric — what passes from the parts of a reading operation to the whole

Reading operations are put together from three parts: a number, a text, and the table around what is
read as its entries.  A relation between operations which each of these has to itself, and which is
kept by sequencing (`Parametric`), is one that every operation has to itself, up to the fields of a
list.  So the operations are gone through once, here, and a property of operations is a relation
that looks at one of its sides only.

Some relations are told by single steps, among them the look at the cursor itself, the second cursor
standing `count` octets behind the first (`Stepwise`).  Such a relation holds of texts and tables as
well (`Stepwise.parametric`): the place up to which entries are read moves with the cursor.
-/

namespace FrameSchema.Wire

/-- The causes that lie with what was asked for, and not with the octets. -/
inductive Error.IsExtraction : Error → Prop where
  | typeMismatch (expected : Storage) (found : Primitive) :
      IsExtraction (.typeMismatch expected found)
  | missingField (position : Nat) : IsExtraction (.missingField position)

/-- The same octets ahead, with so many more behind. -/
def Reader.shift (r : Reader) (count : Nat) : Reader := ⟨r.position + count, r.rest⟩

/-! ## Entries -/

/-- An entry read in place: its key, and a value of the kind announced. -/
def readEntry (nested : Primitive → Read Value) : Read (String × Value) := do
  let key ← readShortString
  let kind ← readTag
  return (key, ← nested kind)

section Entries

variable {nested : Primitive → Read Value} {stop budget : Nat} {table : Table}

/-- One entry more, if one starts before the end. -/
theorem readEntries_succ : readEntries nested stop (budget + 1) table = (do
    if (← get).position < stop then
      let entry ← readEntry nested
      readEntries nested stop budget (table.insert entry.1 entry.2)
    else return table) := by
  rw [readEntries, readEntry]
  simp only [bind_assoc, pure_bind]

/-- In front of the end an entry is read, and then those behind it. -/
theorem readEntries_of_lt {position : Nat} {input : Octets} (h : position < stop) :
    readEntries nested stop (budget + 1) table ⟨position, input⟩
      = (readEntry nested >>= fun e => readEntries nested stop budget (table.insert e.1 e.2))
          ⟨position, input⟩ := by
  rw [readEntries_succ, get_bind, if_pos h]

end Entries

/-! ## Relations that sequencing keeps -/

/-- A relation between operations that is kept by sequencing. -/
structure Sequential (R : ∀ {α : Type}, Read α → Read α → Prop) : Prop where
  pure {α : Type} (a : α) : R (Pure.pure a : Read α) (Pure.pure a)
  throw {α : Type} {cause : Error} (h : ¬cause.IsExtraction) :
    R (throw cause : Read α) (throw cause)
  bind {α β : Type} {x y : Read α} {f g : α → Read β} (h : R x y) (hnext : ∀ a, R (f a) (g a)) :
    R (x >>= f) (y >>= g)

/-- A relation that the parts of values have to themselves, and that is kept by sequencing. -/
structure Parametric (R : ∀ {α : Type}, Read α → Read α → Prop) : Prop extends Sequential R where
  readNat (width : Nat) : R (readNat width) (readNat width)
  readText (count : Nat) : R (readText count) (readText count)
  readTable {nested : Primitive → Read Value} (h : ∀ kind, R (nested kind) (nested kind))
    (hentry : R (readEntry nested) (readEntry nested)) : R (readTable nested) (readTable nested)

variable {R : ∀ {α : Type}, Read α → Read α → Prop}

/-- A step that takes nothing finishes what both have read. -/
theorem Sequential.map {α β : Type} {x y : Read α} (h : Sequential R) (hxy : R x y) (f : α → β) :
    R (x >>= fun a => Pure.pure (f a)) (y >>= fun a => Pure.pure (f a)) :=
  h.bind hxy fun a => h.pure (f a)

namespace Parametric

/-! ### Numbers and texts -/

theorem readOctet (h : Parametric R) : R readOctet readOctet := h.map (h.readNat 1) _

theorem readShort (h : Parametric R) : R readShort readShort := h.map (h.readNat 2) _

theorem readLong (h : Parametric R) : R readLong readLong := h.map (h.readNat 4) _

theorem readLonglong (h : Parametric R) : R readLonglong readLonglong := h.map (h.readNat 8) _

/-- A short text is an octet of length and the text itself. -/
theorem readShortString (h : Parametric R) : R readShortString readShortString :=
  h.bind (h.readNat 1) h.readText

/-- A long text has its length in four octets. -/
theorem readLongString (h : Parametric R) : R readLongString readLongString :=
  h.bind (h.readNat 4) h.readText

/-- An octet that is no tag is a fault of the octets. -/
theorem readTag (h : Parametric R) : R readTag readTag := by
  refine h.bind h.readOctet fun tag => ?_
  cases Primitive.ofTag? tag with
  | none => exact h.throw nofun
  | some kind => exact h.pure kind

/-! ### Values -/

theorem readEntry (h : Parametric R) {nested : Primitive → Read Value}
    (hnested : ∀ kind, R (nested kind) (nested kind)) : R (readEntry nested) (readEntry nested) :=
  h.bind h.readShortString fun _ => h.bind h.readTag fun kind => h.map (hnested kind) _

/-- **What the parts of values have to themselves, values have**, however deep their tables lie. -/
theorem readValue (h : Parametric R) : ∀ (levels : Nat) (kind : Primitive),
    R (readValue levels kind) (readValue levels kind)
  | 0, .table => h.throw nofun
  | levels + 1, .table =>
      h.map (h.readTable (h.readValue levels) (h.readEntry (h.readValue levels))) _
  | _, .octet | _, .bit => by
      rw [Wire.readValue]
      exact h.map h.readOctet _
  | _, .short => by
      rw [Wire.readValue]
      exact h.map h.readShort _
  | _, .long => by
      rw [Wire.readValue]
      exact h.map h.readLong _
  | _, .longlong | _, .timestamp => by
      rw [Wire.readValue]
      exact h.map h.readLonglong _
  | _, .shortstr => by
      rw [Wire.readValue]
      exact h.map h.readShortString _
  | _, .longstr => by
      rw [Wire.readValue]
      exact h.map h.readLongString _

/-! ### Field lists -/

/-- The octet of a bit is read, or is at hand already. -/
theorem advance (h : Parametric R) (cursor : BitCursor) : R cursor.advance cursor.advance := by
  rw [BitCursor.advance]
  split
  · exact h.map h.readOctet _
  · exact h.pure cursor

/-- **A field list has what its fields have**; a bit takes an octet or none. -/
theorem readFieldsAfter (h : Parametric R) : ∀ (kinds : List Primitive) (cursor : BitCursor),
    R (readFieldsAfter cursor kinds) (readFieldsAfter cursor kinds)
  | [], _ => h.pure []
  | kind :: kinds, cursor => by
      by_cases hbit : kind = .bit
      · subst hbit
        rw [Wire.readFieldsAfter]
        exact h.bind (h.advance cursor) fun next => h.map (h.readFieldsAfter kinds _) _
      · rw [readFieldsAfter_cons hbit]
        exact h.bind (h.readValue _ kind) fun value => h.map (h.readFieldsAfter kinds .none) _

theorem readFields (h : Parametric R) (kinds : List Primitive) :
    R (readFields kinds) (readFields kinds) :=
  h.readFieldsAfter kinds .none

/-! ### Optional field lists -/

/-- Flag words are numbers, up to the one that announces no other. -/
theorem readFlags (h : Parametric R) : ∀ budget : Nat, R (readFlags budget) (readFlags budget)
  | 0 => h.throw nofun
  | budget + 1 => by
      refine h.bind h.readShort fun word => ?_
      split
      · exact h.pure _
      · exact h.map (h.readFlags budget) _

/-- A field that the flags announce is read, and one that they leave out takes no octet. -/
theorem readPresent (h : Parametric R) : ∀ (present : List Bool) (kinds : List Primitive),
    R (readPresent present kinds) (readPresent present kinds)
  | _, [] => h.pure []
  | [], _ :: kinds => h.map (h.readPresent [] kinds) _
  | false :: present, _ :: kinds => h.map (h.readPresent present kinds) _
  | true :: present, kind :: kinds =>
      h.bind (h.readValue _ kind) fun _ => h.map (h.readPresent present kinds) _

end Parametric

/-! ## Relations told by single steps -/

/-- A relation between operations on two cursors, of which the second stands `count` octets behind
the first: it is kept by sequencing, and both may look where they stand. -/
structure Stepwise (count : Nat) (R : ∀ {α : Type}, Read α → Read α → Prop) : Prop
    extends Sequential R where
  get {α : Type} {f g : Reader → Read α} (h : ∀ r : Reader, R (f r) (g (r.shift count))) :
    R (MonadState.get >>= f) (MonadState.get >>= g)
  readExactly (width : Nat) : R (readExactly width) (readExactly width)
  checkLength (length : Nat) : R (checkLength length) (checkLength length)

namespace Stepwise

variable {count : Nat}

theorem readNat (h : Stepwise count R) (width : Nat) : R (readNat width) (readNat width) :=
  h.map (h.readExactly width) _

/-- Octets that are no text are a fault of the octets. -/
theorem readText (h : Stepwise count R) (length : Nat) : R (readText length) (readText length) := by
  refine h.bind (h.checkLength length) fun _ => h.bind (h.readExactly length) fun octets => ?_
  cases Octets.toText? octets with
  | none => exact h.throw nofun
  | some text => exact h.pure text

section Table

variable {nested : Primitive → Read Value}

/-- The place up to which entries are read moves with the cursor. -/
theorem readEntries (h : Stepwise count R) (hentry : R (readEntry nested) (readEntry nested))
    (stop : Nat) : ∀ (budget : Nat) (table : Table),
    R (readEntries nested stop budget table) (readEntries nested (stop + count) budget table)
  | 0, table => h.pure table
  | budget + 1, table => by
      rw [readEntries_succ, readEntries_succ]
      refine h.get fun r => ?_
      simp only [Reader.shift, Nat.add_lt_add_iff_right]
      split
      · exact h.bind hentry fun entry => h.readEntries hentry stop budget _
      · exact h.pure table

/-- A table ends where its length says, so far behind either cursor. -/
theorem readTable (h : Stepwise count R) (hentry : R (readEntry nested) (readEntry nested)) :
    R (readTable nested) (readTable nested) := by
  refine h.bind (h.readNat 4) fun length => h.bind (h.checkLength length) fun _ => h.get fun r => ?_
  simp only [Reader.shift, Nat.add_right_comm r.position count]
  refine h.bind (h.readEntries hentry _ length .empty) fun table => h.get fun r' => ?_
  simp only [Reader.shift, Nat.add_right_cancel_iff]
  split
  · exact h.pure table
  · exact h.throw nofun

end Table

/-- **Single steps are enough**: texts and tables are sequences of them. -/
theorem parametric (h : Stepwise count R) : Parametric R where
  toSequential := h.toSequential
  readNat := h.readNat
  readText := h.readText
  readTable _ := h.readTable

/-- The number of flag words is bounded by what is left of the input, which is the same for both. -/
theorem readOptionalFields (h : Stepwise count R) (kinds : List Primitive) :
    R (readOptionalFields kinds) (readOptionalFields kinds) :=
  h.get fun _ => h.bind (h.parametric.readFlags _) fun present =>
    h.parametric.readPresent present kinds

end Stepwise

end FrameSchema.Wire
