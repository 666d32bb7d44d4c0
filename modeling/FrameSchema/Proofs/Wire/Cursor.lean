import FrameSchema.Proofs.Wire.Parametric
import FrameSchema.Proofs.Wire.SlicedTables

/-!
# Proofs/Wire/Cursor — where operations leave the cursor, and what is behind it does not matter

An operation may leave its cursor in several ways: behind what it read, at the end of the input,
behind a length that is too large.  In all of them the cursor has only passed over octets of the
input (`Reader.Leads`), and an input with more octets in front makes no difference but in the
position that is told.  The two facts are proved together and of two operations side by side
(`SideBySide`), since the entries of a table are read up to an absolute position, which moves with
the cursor.

`cursor_invariants` says it of all operations, one after another on one cursor, also those that go
on inside a table.
-/

namespace FrameSchema.Wire

variable {α β : Type}

/-! ## Cursors -/

namespace Reader

/-- Passing over octets that are ahead of the first cursor leads to the second. -/
def Leads (r r' : Reader) : Prop :=
  ∃ count ≤ r.rest.length, r' = ⟨r.position + count, r.rest.drop count⟩

theorem Leads.refl (r : Reader) : r.Leads r := ⟨0, Nat.zero_le _, rfl⟩

/-- What is passed over adds up. -/
theorem Leads.trans {r₁ r₂ r₃ : Reader} (h : r₁.Leads r₂) (h' : r₂.Leads r₃) : r₁.Leads r₃ := by
  obtain ⟨n, hn, rfl⟩ := h
  obtain ⟨m, hm, rfl⟩ := h'
  rw [List.length_drop] at hm
  refine ⟨n + m, by omega, ?_⟩
  rw [List.drop_drop, Nat.add_assoc]

theorem Leads.position_le {r r' : Reader} (h : r.Leads r') : r.position ≤ r'.position := by
  obtain ⟨count, -, rfl⟩ := h
  exact Nat.le_add_right _ _

/-- From the start of an input a cursor is led to places of the input. -/
theorem Leads.of_ofOctets {input : Octets} {r : Reader} (h : (ofOctets input).Leads r) :
    r = .seek input r.position ∧ r.position ≤ input.length := by
  obtain ⟨count, hcount, rfl⟩ := h
  rw [ofOctets, Nat.zero_add]
  exact ⟨rfl, hcount⟩

end Reader

/-- Where an operation left the cursor, be it in success or in failure. -/
def cursorOf : EStateM.Result Error Reader α → Reader
  | .ok _ r | .error _ r => r

/-- The same result or the same fault, with so many more octets behind the cursor. -/
def shifted (count : Nat) : EStateM.Result Error Reader α → EStateM.Result Error Reader α
  | .ok a r => .ok a (r.shift count)
  | .error cause r => .error cause (r.shift count)

/-! ## Operations side by side -/

/-- Two operations of which the second has `count` more octets behind its cursor: it comes to the
result or fault that the first comes to, the cursors staying that far apart, and these only pass
over octets that are ahead. -/
structure SideBySide (count : Nat) (x y : Read α) : Prop where
  shifted : ∀ r : Reader, y (r.shift count) = shifted count (x r)
  leads : ∀ r : Reader, r.Leads (cursorOf (x r))

section Operations

variable {count : Nat}

namespace SideBySide

variable {x y : Read α} {f g : α → Read β}

theorem pure (a : α) : SideBySide count (Pure.pure a) (Pure.pure a) := ⟨fun _ => rfl, .refl⟩

theorem throw (cause : Error) : SideBySide count (throw cause : Read α) (throw cause) :=
  ⟨fun _ => rfl, .refl⟩

/-- **Sequences go side by side if their steps do**, wherever they end. -/
theorem bind (h : SideBySide count x y) (hnext : ∀ a, SideBySide count (f a) (g a)) :
    SideBySide count (x >>= f) (y >>= g) := by
  constructor
  · intro r
    have hy := h.shifted r
    cases hx : x r with
    | ok a r₁ => grind [Wire.shifted, (hnext a).shifted r₁]
    | error cause r₁ => grind [Wire.shifted]
  · intro r
    have hleads := h.leads r
    cases hx : x r with
    | ok a r₁ => grind [cursorOf, Reader.Leads.trans, (hnext a).leads r₁]
    | error cause r₁ => grind [cursorOf]

/-- Both look at their own cursor. -/
theorem get {f g : Reader → Read β} (h : ∀ r, SideBySide count (f r) (g (r.shift count))) :
    SideBySide count (MonadState.get >>= f) (MonadState.get >>= g) where
  shifted r := (h r).shifted r
  leads r := (h r).leads r

end SideBySide

/-- As many octets are taken, or are missing, on both sides. -/
theorem sideBySide_readExactly (width : Nat) :
    SideBySide count (readExactly width) (readExactly width) := by
  constructor
  · intro r
    simp only [readExactly, Reader.shift, Nat.add_right_comm r.position count]
    split <;> rfl
  · intro r
    have htaken : (r.rest.take width).length = min width r.rest.length := List.length_take
    have hleads : r.Leads ⟨r.position + (r.rest.take width).length, r.rest.drop width⟩ := by
      refine ⟨(r.rest.take width).length, by omega, ?_⟩
      rw [htaken, List.drop_eq_drop_min]
    simp only [readExactly]
    split <;> exact hleads

theorem sideBySide_checkLength (length : Nat) :
    SideBySide count (checkLength length) (checkLength length) := by
  constructor
  · intro r
    rw [checkLength, checkLength, apply_ite (shifted count)]
    rfl
  · intro r
    rw [checkLength]
    split <;> exact .refl r

/-- **Single steps go side by side.** -/
theorem stepwise_sideBySide : Stepwise count (SideBySide count) where
  pure := .pure
  throw {_ cause} _ := .throw cause
  bind := .bind
  get := .get
  readExactly := sideBySide_readExactly
  checkLength := sideBySide_checkLength

/-- **Every operation goes side by side with itself.** -/
theorem parametric_sideBySide : Parametric (SideBySide count) := stepwise_sideBySide.parametric

end Operations

/-! ## Tables inside an input -/

/-- A success leaves the cursor further on. -/
theorem SideBySide.leads_of_ok {count : Nat} {x y : Read α} (h : SideBySide count x y)
    {r r' : Reader} {a : α} (hok : x r = .ok a r') : r.Leads r' := by
  have hleads := h.leads r
  rwa [hok] at hleads

/-- The cursors between the entries that are read from the first one on. -/
inductive BetweenEntries (nested : Primitive → Read Value) (stop : Nat) (first : Reader) :
    Reader → Prop where
  | first : BetweenEntries nested stop first first
  | behind {r r' : Reader} {e : String × Value} (h : BetweenEntries nested stop first r)
      (hlt : r.position < stop) (hread : readEntry nested r = .ok e r') :
      BetweenEntries nested stop first r'

/-- A table that starts at the cursor, or a table somewhere inside it, is read up to `stop`: behind
its length, once that is let through, as many octets as it tells. -/
inductive TableEnds : (levels : Nat) → Reader → (stop : Nat) → Prop where
  | outer {levels length : Nat} {r r' : Reader} (hlength : readNat 4 r = .ok length r')
      (hcheck : checkLength length r' = .ok () r') : TableEnds (levels + 1) r (r'.position + length)
  | inner {levels length stop : Nat} {r r' entry start : Reader} {key : String}
      (hlength : readNat 4 r = .ok length r') (hcheck : checkLength length r' = .ok () r')
      (hentry : BetweenEntries (readValue levels) (r'.position + length) r' entry)
      (hlt : entry.position < r'.position + length)
      (hkey : (do let key ← readShortString; return (key, ← readTag)) entry
        = .ok (key, .table) start)
      (h : TableEnds levels start stop) : TableEnds (levels + 1) r stop

/-- The cursors between entries lie ahead of the first. -/
theorem BetweenEntries.leads {levels stop : Nat} {first r : Reader}
    (h : BetweenEntries (readValue levels) stop first r) : first.Leads r := by
  induction h with
  | first => exact .refl first
  | behind _ _ hread ih =>
    have hentry : SideBySide 0 (readEntry (readValue levels)) (readEntry (readValue levels)) :=
      parametric_sideBySide.readEntry (parametric_sideBySide.readValue levels)
    exact ih.trans (hentry.leads_of_ok hread)

/-- **Tables end within the input**, wherever they start and however deep they lie. -/
theorem TableEnds.le_length {input : Octets} {levels stop : Nat} {r : Reader}
    (h : TableEnds levels r stop) (hleads : (Reader.ofOctets input).Leads r) :
    stop ≤ input.length := by
  induction h with
  | @outer _ length _ r' hlength hcheck =>
    have hlong : SideBySide 0 (readNat 4) (readNat 4) := parametric_sideBySide.readNat 4
    obtain ⟨hseek, hle⟩ := (hleads.trans (hlong.leads_of_ok hlength)).of_ofOctets
    have hroom : length ≤ r'.remaining := by
      rw [checkLength] at hcheck
      split at hcheck
      · assumption
      · cases hcheck
    rw [hseek, Reader.remaining, Reader.seek, List.length_drop] at hroom
    omega
  | inner hlength _ hentry _ hkey _ ih =>
    have hlong : SideBySide 0 (readNat 4) (readNat 4) := parametric_sideBySide.readNat 4
    have htag : SideBySide 0 (do let key ← readShortString; return (key, ← readTag)) _ :=
      have h := parametric_sideBySide
      h.bind h.readShortString fun key => h.map h.readTag (Prod.mk key)
    exact ih <| ((hleads.trans (hlong.leads_of_ok hlength)).trans hentry.leads).trans
      (htag.leads_of_ok hkey)

/-! ## Operations one after another -/

/-- What may be asked of a reader. -/
inductive Operation where
  | octet | short | long | longlong
  | fields (kinds : List Primitive)
  | optionalFields (kinds : List Primitive)

namespace Operation

/-- What an operation gives. -/
def Result : Operation → Type
  | octet => UInt8
  | short => UInt16
  | long => UInt32
  | longlong => UInt64
  | fields _ => List Value
  | optionalFields _ => List (Option Value)

/-- The operation on a cursor. -/
def read : (op : Operation) → Read op.Result
  | octet => readOctet
  | short => readShort
  | long => readLong
  | longlong => readLonglong
  | fields kinds => readFields kinds
  | optionalFields kinds => readOptionalFields kinds

/-- The cursor behind an operation, whether it succeeds or fails. -/
def next (r : Reader) (op : Operation) : Reader := cursorOf (op.read r)

theorem sideBySide_read {count : Nat} : ∀ op : Operation, SideBySide count op.read op.read
  | octet => parametric_sideBySide.readOctet
  | short => parametric_sideBySide.readShort
  | long => parametric_sideBySide.readLong
  | longlong => parametric_sideBySide.readLonglong
  | fields kinds => parametric_sideBySide.readFields kinds
  | optionalFields kinds => stepwise_sideBySide.readOptionalFields kinds

/-- One step moves on within the input. -/
theorem leads_next (r : Reader) (op : Operation) : r.Leads (next r op) :=
  have hsame : SideBySide 0 op.read op.read := op.sideBySide_read
  hsame.leads r

end Operation

/-- The cursors from one on, operation after operation, the failed ones included. -/
def visited (r : Reader) (ops : List Operation) : List Reader := ops.scanl Operation.next r

/-- Every cursor of a run lies ahead of its start. -/
theorem leads_of_mem_visited {ops : List Operation} : ∀ {r r' : Reader}, r' ∈ visited r ops →
    r.Leads r' := by
  induction ops with
  | nil =>
    intro r r' h
    obtain rfl := List.mem_singleton.1 h
    exact .refl r'
  | cons op ops ih =>
    intro r r' h
    rw [visited, List.scanl_cons] at h
    rcases List.mem_cons.1 h with rfl | h
    · exact .refl r'
    · exact (Operation.leads_next r op).trans (ih h)

/-- **A run leads on from each cursor to those behind it.** -/
theorem pairwise_leads_visited (ops : List Operation) :
    ∀ r : Reader, (visited r ops).Pairwise Reader.Leads := by
  induction ops with
  | nil => exact fun r => List.pairwise_singleton _ r
  | cons op ops ih =>
    intro r
    rw [visited, List.scanl_cons, List.pairwise_cons]
    exact ⟨fun r' h => (Operation.leads_next r op).trans (leads_of_mem_visited h), ih _⟩

/-- **Wherever operations take a cursor, it stays within its input.**  The positions that a run
goes through ascend; at each of them the octets ahead are those of the input that are left, and the
tables that start there, with those inside them, end within the input.  And an operation at a
position comes to the result or fault, and as far, as on the octets from there on alone. -/
theorem cursor_invariants (input : Octets) (ops : List Operation) :
    ((visited (.ofOctets input) ops).map (·.position)).Pairwise (· ≤ ·) ∧
    (∀ r ∈ visited (.ofOctets input) ops, r = .seek input r.position ∧
      r.position ≤ input.length ∧ r.position + r.remaining = input.length ∧
      ∀ levels stop, TableEnds levels r stop → stop ≤ input.length) ∧
    ∀ (position : Nat) (op : Operation), op.read (.seek input position) =
      shifted position (op.read (.ofOctets (input.drop position))) := by
  refine ⟨?_, fun r hr => ?_, fun position op => ?_⟩
  · rw [List.pairwise_map]
    exact (pairwise_leads_visited ops _).imp Reader.Leads.position_le
  · have hleads := leads_of_mem_visited hr
    obtain ⟨hseek, hle⟩ := hleads.of_ofOctets
    have hremaining : r.remaining = input.length - r.position := by
      rw [hseek, Reader.remaining, Reader.seek, List.length_drop]
    exact ⟨hseek, hle, by omega, fun levels stop hstop => hstop.le_length hleads⟩
  · have hsame : SideBySide position op.read op.read := op.sideBySide_read
    rw [← hsame.shifted, Reader.seek, Reader.ofOctets, Reader.shift, Nat.zero_add]

/-- A number, a table whose length is too large, and flags: the cursor goes to 2, 6 and 8.  The
table inside the one that starts at 0 is read up to 19 of the 20 octets, and at 6 a number is read
as in front of the last fourteen. -/
theorem cursor_in_tableInTable :
    (visited (.ofOctets tableInTable) [.short, .fields [.table], .optionalFields [.octet]]).map
        (·.position) = [0, 2, 6, 8] ∧
      (Reader.seek tableInTable 6).position + (Reader.seek tableInTable 6).remaining = 20 ∧
      TableEnds 2 (.seek tableInTable 0) 19 ∧ 19 ≤ tableInTable.length ∧
      readShort (.seek tableInTable 6) = .ok 0x4600 (.seek tableInTable 8) := by
  let ops : List Operation := [.short, .fields [.table], .optionalFields [.octet]]
  have hvisited : visited (.ofOctets tableInTable) ops =
      [.seek tableInTable 0, .seek tableInTable 2, .seek tableInTable 6,
        .seek tableInTable 8] := by
    decide +kernel
  have hlength : readNat 4 (.seek tableInTable 0) = .ok 15 (.seek tableInTable 4) := by
    decide +kernel
  have hkey : (do let key ← readShortString; return (key, ← readTag)) (.seek tableInTable 4)
      = .ok ("t", .table) (.seek tableInTable 7) := by decide +kernel
  have hlength' : readNat 4 (.seek tableInTable 7) = .ok 8 (.seek tableInTable 11) := by
    decide +kernel
  have hends : TableEnds 2 (.seek tableInTable 0) 19 :=
    .inner hlength (by decide +kernel) .first (by decide) hkey (.outer hlength' (by decide +kernel))
  obtain ⟨-, hwithin, htranslate⟩ := cursor_invariants tableInTable ops
  obtain ⟨-, -, -, htables⟩ := hwithin (.seek tableInTable 0) (by rw [hvisited]; simp)
  obtain ⟨-, -, hremaining, -⟩ := hwithin (.seek tableInTable 6) (by rw [hvisited]; simp)
  have hshort : readShort (.ofOctets (tableInTable.drop 6)) =
      .ok 0x4600 ⟨2, tableInTable.drop 8⟩ := by
    decide +kernel
  refine ⟨by rw [hvisited]; rfl, hremaining, hends, htables 2 19 hends, ?_⟩
  have hread := htranslate 6 .short
  exact hread.trans (congrArg (shifted 6) hshort)

end FrameSchema.Wire
