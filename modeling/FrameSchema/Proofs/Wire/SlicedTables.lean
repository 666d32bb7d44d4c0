import FrameSchema.Proofs.Wire.DepthLimit
import FrameSchema.Proofs.Wire.Consumption
import FrameSchema.Proofs.Wire.Parametric

/-!
# Proofs/Wire/SlicedTables — a table read in place is the table of its own slice

The reader never cuts a table out: it reads entries off the whole input, checks the length of a
table inside against all octets that are left, and sees that an entry ran over the end of its table
only when it looks for the next one.  `Sliced` is the plain way to read: cut the slice out, and read
entries off it until it is empty.  Whatever one of them accepts, the other accepts from the same
octets (`Mirrors`).  The relation is closed under sequencing; for the entries of a table it is an
induction on their number (`entries_eq_some_of_readEntries`, `readEntries_of_entries`), and tables
in tables are an induction on the levels left to open (`mirrors_readValue`).
-/

namespace FrameSchema.Wire

variable {α β : Type}

/-! ## The plain reader -/

namespace Sliced

/-- An operation on a slice: it gives a result and what is left of the slice, or nothing. -/
abbrev Parse := StateT Octets Option

/-- Exactly the next `count` octets, cut out of the slice. -/
def cut (count : Nat) : Parse Octets := fun slice =>
  if count ≤ slice.length then some (slice.take count, slice.drop count) else none

/-- A number of `width` octets. -/
def number (width : Nat) : Parse Nat := return Octets.toNat (← cut width)

def octet : Parse UInt8 := return UInt8.ofNat (← number 1)

def short : Parse UInt16 := return UInt16.ofNat (← number 2)

def long : Parse UInt32 := return UInt32.ofNat (← number 4)

def longlong : Parse UInt64 := return UInt64.ofNat (← number 8)

/-- A text behind a length of `width` octets. -/
def text (width : Nat) : Parse String := do Octets.toText? (← cut (← number width))

/-- The kind announced by the next octet. -/
def kind : Parse Primitive := do Primitive.ofTag? (← octet)

/-- An entry of a table: its key, and a value of the kind announced. -/
def entry (value : Primitive → Parse Value) : Parse (String × Value) := do
  let key ← text 1
  let kind ← kind
  return (key, ← value kind)

/-- The entries of a slice, read off its front until it is empty.  An entry takes at least the
length of its key, so the slice gets shorter (`length_lt_of_entry`). -/
def entries (value : Primitive → Parse Value) (table : Table) (slice : Octets) : Option Table :=
  if slice = [] then some table
  else do
    let ((key, v), rest) ← entry value slice
    if _h : rest.length < slice.length then entries value (table.insert key v) rest else none
termination_by slice.length

/-- A table: its length, and the entries of the slice of that length. -/
def table (value : Primitive → Parse Value) : Parse Table := do
  entries value .empty (← cut (← number 4))

/-- A value of a kind, with `levels` table levels left to open. -/
def value : (levels : Nat) → Primitive → Parse Value
  | _, .octet => return .octet (← octet)
  | _, .short => return .short (← short)
  | _, .long => return .long (← long)
  | _, .longlong => return .longlong (← longlong)
  | _, .timestamp => return .timestamp (← longlong)
  | _, .bit => return .bit ((← octet) != 0)
  | _, .shortstr => return .shortstr (← text 1)
  | _, .longstr => return .longstr (← text 4)
  | 0, .table => failure
  | levels + 1, .table => return .table (← table (value levels))

/-- The number of octets that a table claims for its entries. -/
def claimed (octets : Octets) : Nat := Octets.toNat (octets.take 4)

/-! ### What success says -/

/-- A sequence gives a result exactly if its steps do, the second on what the first leaves. -/
theorem bind_eq_some_iff {x : Parse α} {f : α → Parse β} {slice rest : Octets} {b : β} :
    (x >>= f) slice = some (b, rest) ↔
      ∃ a between, x slice = some (a, between) ∧ f a between = some (b, rest) := by
  change Option.bind (x slice) (fun p => f p.1 p.2) = _ ↔ _
  rw [Option.bind_eq_some_iff]
  exact Prod.exists

/-- A step that may fail and takes nothing. -/
theorem lift_eq_some_iff {o : Option α} {slice rest : Octets} {a : α} :
    (liftM o : Parse α) slice = some (a, rest) ↔ o = some a ∧ slice = rest := by
  cases o with
  | none => simp [liftM, monadLift, MonadLift.monadLift, StateT.lift]
  | some b => simp [liftM, monadLift, MonadLift.monadLift, StateT.lift]

/-- What is cut out stands in front of what is left. -/
theorem cut_eq_some_iff {count : Nat} {slice octets rest : Octets} :
    cut count slice = some (octets, rest) ↔ slice = octets ++ rest ∧ octets.length = count := by
  rw [cut]
  constructor
  · intro h
    split at h
    case isTrue hle =>
      obtain ⟨rfl, rfl⟩ := Prod.mk.inj (Option.some.inj h)
      simp [hle]
    case isFalse => cases h
  · rintro ⟨rfl, rfl⟩
    simp

/-- A number is cut out exactly where its digits stand. -/
theorem number_eq_some_iff {width n : Nat} {slice rest : Octets} :
    number width slice = some (n, rest) ↔
      n < 256 ^ width ∧ slice = Octets.bigEndian width n ++ rest := by
  rw [number, bind_eq_some_iff]
  simp only [cut_eq_some_iff]
  constructor
  · rintro ⟨octets, between, ⟨rfl, rfl⟩, h⟩
    obtain ⟨rfl, rfl⟩ := Prod.mk.inj (Option.some.inj h)
    exact ⟨Octets.toNat_lt octets, by rw [Octets.bigEndian_toNat]⟩
  · rintro ⟨hlt, rfl⟩
    refine ⟨_, rest, ⟨rfl, Octets.length_bigEndian width n⟩, ?_⟩
    rw [Octets.toNat_bigEndian hlt]
    rfl

/-- An empty slice has no entries. -/
@[simp] theorem entries_nil (value : Primitive → Parse Value) (table : Table) :
    entries value table [] = some table := by
  rw [entries, if_pos rfl]

/-- Behind an entry stand the others. -/
theorem entries_of_entry {value : Primitive → Parse Value} {table : Table} {slice rest : Octets}
    {key : String} {v : Value} (hentry : entry value slice = some ((key, v), rest))
    (hlt : rest.length < slice.length) :
    entries value table slice = entries value (table.insert key v) rest := by
  have hne : slice ≠ [] := by
    rintro rfl
    exact absurd hlt (Nat.not_lt_zero _)
  rw [entries, if_neg hne, hentry]
  exact dif_pos hlt

/-- **A table is the entries of the octets behind its length**, as many as this tells. -/
theorem table_eq_some_iff {value : Primitive → Parse Value} {slice rest : Octets} {t : Table} :
    table value slice = some (t, rest) ↔ ∃ body, body.length < UInt32.size ∧
      slice = Octets.bigEndian 4 body.length ++ body ++ rest ∧
      entries value .empty body = some t := by
  constructor
  · intro h
    obtain ⟨length, behind, hlength, hbody⟩ := bind_eq_some_iff.1 h
    obtain ⟨body, behind', hcut, hlift⟩ := bind_eq_some_iff.1 hbody
    obtain ⟨hlt, rfl⟩ := number_eq_some_iff.1 hlength
    obtain ⟨rfl, rfl⟩ := cut_eq_some_iff.1 hcut
    obtain ⟨hentries, rfl⟩ := lift_eq_some_iff.1 hlift
    exact ⟨body, hlt, (List.append_assoc ..).symm, hentries⟩
  · rintro ⟨body, hlt, rfl, hentries⟩
    rw [List.append_assoc]
    exact bind_eq_some_iff.2 ⟨_, body ++ rest, number_eq_some_iff.2 ⟨hlt, rfl⟩,
      bind_eq_some_iff.2 ⟨body, rest, cut_eq_some_iff.2 ⟨rfl, rfl⟩,
        lift_eq_some_iff.2 ⟨hentries, rfl⟩⟩⟩

/-- A table takes its length and the octets that this claims. -/
theorem exists_slice_of_value_table {levels : Nat} {octets rest : Octets} {v : Value}
    (h : value levels .table octets = some (v, rest)) :
    ∃ slice, octets = slice ++ rest ∧ slice.length = 4 + claimed octets := by
  cases levels with
  | zero => cases h
  | succ levels =>
    obtain ⟨t, behind, htable, hv⟩ := bind_eq_some_iff.1 h
    obtain ⟨-, rfl⟩ := Prod.mk.inj (Option.some.inj hv)
    obtain ⟨body, hlt, rfl, -⟩ := table_eq_some_iff.1 htable
    refine ⟨_, rfl, ?_⟩
    rw [claimed, List.append_assoc, List.take_left' (Octets.length_bigEndian 4 body.length),
      Octets.toNat_bigEndian hlt]
    simp

end Sliced

/-! ## Two ways to the same result -/

open Sliced (Parse)

/-- An operation on the reader and one on a slice accept the same octets with the same results,
wherever these stand and whatever follows them. -/
structure Mirrors (read : Read α) (parse : Parse α) : Prop where
  takes : Yields read fun octets a => ∀ rest, parse (octets ++ rest) = some (a, rest)
  reads : ∀ {slice a rest}, parse slice = some (a, rest) →
    ∃ octets, slice = octets ++ rest ∧ Reads read octets a

namespace Mirrors

variable {read : Read α} {parse : Parse α}

theorem pure (a : α) : Mirrors (Pure.pure a) (Pure.pure a) where
  takes := .pure fun _ => rfl
  reads h := by
    obtain ⟨rfl, rfl⟩ := Prod.mk.inj (Option.some.inj h)
    exact ⟨[], rfl, .pure a⟩

theorem fail (cause : Error) : Mirrors (throw cause : Read α) failure where
  takes := .throw
  reads h := nomatch h

/-- **Sequences go together if their steps do.** -/
theorem bind {f : α → Read β} {g : α → Parse β} (h : Mirrors read parse)
    (hf : ∀ a, Mirrors (f a) (g a)) : Mirrors (read >>= f) (parse >>= g) where
  takes := h.takes.bind fun s a hs => (hf a).takes.imp fun t b ht rest =>
    Sliced.bind_eq_some_iff.2 ⟨a, t ++ rest, by rw [List.append_assoc, hs], ht rest⟩
  reads hok := by
    obtain ⟨a, between, ha, hb⟩ := Sliced.bind_eq_some_iff.1 hok
    obtain ⟨s, rfl, hs⟩ := h.reads ha
    obtain ⟨t, rfl, ht⟩ := (hf a).reads hb
    exact ⟨s ++ t, (List.append_assoc ..).symm, hs.bind ht⟩

/-- A step that takes nothing finishes what both have read. -/
theorem map (h : Mirrors read parse) (f : α → β) :
    Mirrors (read >>= fun a => Pure.pure (f a)) (parse >>= fun a => Pure.pure (f a)) :=
  h.bind fun a => .pure (f a)

/-- **What the reader accepts is what is accepted of the octets ahead.** -/
theorem ok_iff (h : Mirrors read parse) {position : Nat} {input : Octets} {a : α} {r : Reader} :
    read ⟨position, input⟩ = .ok a r ↔ ∃ octets rest, input = octets ++ rest ∧
      r = ⟨position + octets.length, rest⟩ ∧ parse input = some (a, rest) := by
  constructor
  · intro hok
    obtain ⟨octets, rest, rfl, rfl, ha⟩ := h.takes _ _ _ _ hok
    exact ⟨octets, rest, rfl, rfl, ha rest⟩
  · rintro ⟨octets, rest, rfl, rfl, hok⟩
    obtain ⟨octets', heq, hread⟩ := h.reads hok
    obtain rfl := List.append_cancel_right heq
    exact hread position rest

/-- What follows has no part in the result. -/
theorem parse_append (h : Mirrors read parse) {octets rest : Octets} {a : α}
    (hok : parse (octets ++ rest) = some (a, rest)) (rest' : Octets) :
    parse (octets ++ rest') = some (a, rest') := by
  obtain ⟨octets', heq, hread⟩ := h.reads hok
  obtain rfl := List.append_cancel_right heq
  obtain ⟨_, behind, -, hr, hparse⟩ := h.ok_iff.1 (hread 0 rest')
  obtain rfl := (Reader.mk.inj hr).2
  exact hparse

/-- Octets that the reader takes once are read wherever they stand. -/
theorem yields_reads (h : Mirrors read parse) : Yields read (Reads read) :=
  h.takes.imp fun octets a ha => by
    obtain ⟨octets', heq, hread⟩ := h.reads (ha [])
    obtain rfl := List.append_cancel_right heq
    exact hread

end Mirrors

/-! ## Numbers and texts -/

/-- A number is read alike, at any width. -/
theorem mirrors_readNat (width : Nat) : Mirrors (readNat width) (Sliced.number width) where
  takes := (yields_readNat width).imp fun s n ⟨hs, hlt⟩ rest =>
    Sliced.number_eq_some_iff.2 ⟨hlt, by rw [hs]⟩
  reads h := by
    obtain ⟨hlt, rfl⟩ := Sliced.number_eq_some_iff.1 h
    exact ⟨_, rfl, reads_readNat hlt⟩

theorem mirrors_readText (count : Nat) :
    Mirrors (readText count) (do Octets.toText? (← Sliced.cut count)) where
  takes := (yields_readText count).imp fun s text ⟨hs, hlength⟩ rest =>
    Sliced.bind_eq_some_iff.2 ⟨s, rest, Sliced.cut_eq_some_iff.2 ⟨rfl, hlength⟩,
      Sliced.lift_eq_some_iff.2 ⟨Octets.toText?_eq_some_iff.2 hs.symm, rfl⟩⟩
  reads h := by
    obtain ⟨octets, between, hcut, hlift⟩ := Sliced.bind_eq_some_iff.1 h
    obtain ⟨rfl, rfl⟩ := Sliced.cut_eq_some_iff.1 hcut
    obtain ⟨htext, rfl⟩ := Sliced.lift_eq_some_iff.1 hlift
    obtain rfl := Octets.toText?_eq_some_iff.1 htext
    exact ⟨_, rfl, reads_readText _⟩

/-- A text behind its length, whatever the width of this. -/
theorem mirrors_readString (width : Nat) :
    Mirrors (do readText (← readNat width)) (Sliced.text width) :=
  (mirrors_readNat width).bind mirrors_readText

theorem mirrors_readTag : Mirrors readTag Sliced.kind := by
  refine ((mirrors_readNat 1).map UInt8.ofNat).bind fun tag => ?_
  cases Primitive.ofTag? tag with
  | none => exact .fail _
  | some kind => exact .pure kind

/-! ## Entries and tables -/

section Table

variable {nested : Primitive → Read Value} {value : Primitive → Parse Value}

variable (h : ∀ kind, Mirrors (nested kind) (value kind))
include h

/-- An entry is read alike if the values announced are. -/
theorem mirrors_readEntry : Mirrors (readEntry nested) (Sliced.entry value) :=
  (mirrors_readString 1).bind fun key => mirrors_readTag.bind fun kind => (h kind).map (key, ·)

/-- An entry takes at least the length of its key. -/
theorem length_lt_of_entry {slice rest : Octets} {e : String × Value}
    (hentry : Sliced.entry value slice = some (e, rest)) : rest.length < slice.length := by
  obtain ⟨key, behindKey, hkey, hvalue⟩ := Sliced.bind_eq_some_iff.1 hentry
  obtain ⟨length, behindLength, hlength, htext⟩ := Sliced.bind_eq_some_iff.1 hkey
  obtain ⟨-, rfl⟩ := Sliced.number_eq_some_iff.1 hlength
  obtain ⟨k, rfl, -⟩ := (mirrors_readText length).reads htext
  have hbehind := mirrors_readTag.bind fun kind => (h kind).map (key, ·)
  obtain ⟨v, rfl, -⟩ := hbehind.reads hvalue
  simp only [List.length_append, Octets.length_bigEndian]
  omega

/-- **Entries read up to exactly the end are those of the slice that ends there.**  An entry that
runs over the end is the last one, and takes the cursor behind it. -/
theorem entries_eq_some_of_readEntries {t : Table} {r : Reader} {budget : Nat} :
    ∀ {distance position : Nat} {table : Table} {input : Octets},
      readEntries nested (position + distance) budget table ⟨position, input⟩ = .ok t r →
      r.position = position + distance → ∃ slice, input = slice ++ r.rest ∧
        slice.length = distance ∧ Sliced.entries value table slice = some t := by
  induction budget with
  | zero =>
    intro distance position table input hok hstop
    obtain ⟨rfl, rfl⟩ := EStateM.Result.ok.inj hok
    obtain rfl : distance = 0 := by simpa using hstop
    exact ⟨[], rfl, rfl, by simp⟩
  | succ budget ih =>
    intro distance position table input hok hstop
    rcases Nat.eq_zero_or_pos distance with rfl | hpos
    · rw [readEntries_of_le (Nat.le_refl position)] at hok
      obtain ⟨rfl, rfl⟩ := EStateM.Result.ok.inj hok
      exact ⟨[], rfl, rfl, by simp⟩
    · rw [readEntries_of_lt (by omega)] at hok
      obtain ⟨⟨key, v⟩, r₁, hentry, hok⟩ := bind_eq_ok hok
      obtain ⟨e, input, rfl, rfl, he⟩ := (mirrors_readEntry h).takes _ _ _ _ hentry
      rcases Nat.lt_or_ge distance e.length with hover | hle
      · have hbehind : position + distance ≤ position + e.length := by omega
        rw [readEntries_of_le hbehind] at hok
        obtain ⟨rfl, rfl⟩ := EStateM.Result.ok.inj hok
        exact absurd (Nat.add_left_cancel hstop) hover.ne'
      · obtain ⟨distance, rfl⟩ := Nat.exists_eq_add_of_le hle
        rw [← Nat.add_assoc] at hok hstop
        obtain ⟨slice, hslice, rfl, hentries⟩ := ih hok hstop
        refine ⟨e ++ slice, by rw [hslice, List.append_assoc], List.length_append, ?_⟩
        rw [Sliced.entries_of_entry (he slice) (length_lt_of_entry h (he slice)), hentries]

/-- **The entries of a slice are read in place** with as much of a budget as the slice is long. -/
theorem readEntries_of_entries {t : Table} {budget : Nat} :
    ∀ {position : Nat} {table : Table} {slice rest : Octets},
      Sliced.entries value table slice = some t → slice.length ≤ budget →
      readEntries nested (position + slice.length) budget table ⟨position, slice ++ rest⟩
        = .ok t ⟨position + slice.length, rest⟩ := by
  induction budget with
  | zero =>
    intro position table slice rest hok hbudget
    obtain rfl : slice = [] := List.length_eq_zero_iff.1 (Nat.le_zero.1 hbudget)
    obtain rfl : table = t := by simpa using hok
    rfl
  | succ budget ih =>
    intro position table slice rest hok hbudget
    by_cases hempty : slice = []
    · subst hempty
      obtain rfl : table = t := by simpa using hok
      exact readEntries_of_le le_rfl
    · have hfirst := hok
      rw [Sliced.entries, if_neg hempty] at hfirst
      obtain ⟨⟨⟨key, v⟩, behind⟩, hentry, -⟩ := Option.bind_eq_some_iff.1 hfirst
      have hlt := length_lt_of_entry h hentry
      rw [Sliced.entries_of_entry hentry hlt] at hok
      obtain ⟨e, rfl, he⟩ := (mirrors_readEntry h).reads hentry
      rw [List.length_append] at hlt hbudget ⊢
      rw [readEntries_of_lt (by omega), List.append_assoc, bind_of_ok (he position _),
        ← Nat.add_assoc, ih hok (by omega)]

/-- **A table is read alike in place and from its slice**, if the values announced are. -/
theorem mirrors_readTable : Mirrors (readTable nested) (Sliced.table value) where
  takes := by
    intro position input t r hok
    obtain ⟨length, rest, rfl, hlt, hentries, hstop⟩ := exists_readEntries_of_readTable hok
    obtain ⟨body, rfl, rfl, hbody⟩ := entries_eq_some_of_readEntries h hentries hstop
    refine ⟨Octets.bigEndian 4 body.length ++ body, r.rest, (List.append_assoc ..).symm, ?_, ?_⟩
    · simp [← Nat.add_assoc, ← hstop]
    · intro rest
      exact Sliced.table_eq_some_iff.2 ⟨body, hlt, rfl, hbody⟩
  reads hok := by
    obtain ⟨body, hlt, rfl, hentries⟩ := Sliced.table_eq_some_iff.1 hok
    exact ⟨_, rfl, reads_readTable hlt fun position rest =>
      readEntries_of_entries h hentries le_rfl⟩

end Table

/-! ## Values -/

/-- **A value is read in place as from slices**, however deep its tables may lie. -/
theorem mirrors_readValue : ∀ (levels : Nat) (kind : Primitive),
    Mirrors (readValue levels kind) (Sliced.value levels kind)
  | 0, .table => .fail _
  | levels + 1, .table => (mirrors_readTable (mirrors_readValue levels)).map Value.table
  | _, .octet => by
      rw [readValue, Sliced.value]
      exact ((mirrors_readNat 1).map UInt8.ofNat).map Value.octet
  | _, .short => by
      rw [readValue, Sliced.value]
      exact ((mirrors_readNat 2).map UInt16.ofNat).map Value.short
  | _, .long => by
      rw [readValue, Sliced.value]
      exact ((mirrors_readNat 4).map UInt32.ofNat).map Value.long
  | _, .longlong => by
      rw [readValue, Sliced.value]
      exact ((mirrors_readNat 8).map UInt64.ofNat).map Value.longlong
  | _, .timestamp => by
      rw [readValue, Sliced.value]
      exact ((mirrors_readNat 8).map UInt64.ofNat).map Value.timestamp
  | _, .bit => by
      rw [readValue, Sliced.value]
      exact ((mirrors_readNat 1).map UInt8.ofNat).map fun v => Value.bit (v != 0)
  | _, .shortstr => by
      rw [readValue, Sliced.value]
      exact (mirrors_readString 1).map Value.shortstr
  | _, .longstr => by
      rw [readValue, Sliced.value]
      exact (mirrors_readString 4).map Value.longstr

/-! ## Tables in an input -/

/-- **A table read in place is the table of its own slice.**  Wherever the reader stands, and inside
however many tables, it accepts a table exactly if the plain reader accepts the same table of the
octets ahead, and then it stands behind the length and the octets that this claims.  There the plain
reader stops as well; and from these octets alone, whatever comes behind them, either of the two
gets the table. -/
theorem readTable_iff_sliced (position depth : Nat) (ahead : Octets) (t : Table) :
    (∀ r, readValue (maxTableDepth - depth) .table ⟨position, ahead⟩ = .ok (.table t) r ↔
      ∃ rest, Sliced.value (maxTableDepth - depth) .table ahead = some (.table t, rest) ∧
        r = ⟨position + (4 + Sliced.claimed ahead), rest⟩) ∧
    ∀ rest, Sliced.value (maxTableDepth - depth) .table ahead = some (.table t, rest) →
      ∃ slice, ahead = slice ++ rest ∧ slice.length = 4 + Sliced.claimed ahead ∧
        Sliced.value (maxTableDepth - depth) .table slice = some (.table t, []) ∧
        readValue (maxTableDepth - depth) .table (.ofOctets slice)
          = .ok (.table t) ⟨slice.length, []⟩ := by
  have hmirrors := mirrors_readValue (maxTableDepth - depth) .table
  constructor
  · intro r
    constructor
    · intro hok
      obtain ⟨octets, rest, rfl, rfl, hparse⟩ := hmirrors.ok_iff.1 hok
      obtain ⟨slice, heq, hlength⟩ := Sliced.exists_slice_of_value_table hparse
      obtain rfl := List.append_cancel_right heq
      exact ⟨rest, hparse, by rw [hlength]⟩
    · rintro ⟨rest, hparse, rfl⟩
      obtain ⟨slice, rfl, hlength⟩ := Sliced.exists_slice_of_value_table hparse
      exact hmirrors.ok_iff.2 ⟨slice, rest, rfl, by rw [hlength], hparse⟩
  · intro rest hparse
    obtain ⟨slice, rfl, hlength⟩ := Sliced.exists_slice_of_value_table hparse
    have halone : Sliced.value (maxTableDepth - depth) .table slice = some (.table t, []) := by
      simpa using hmirrors.parse_append hparse []
    exact ⟨slice, rfl, hlength, halone,
      hmirrors.ok_iff.2 ⟨slice, [], (List.append_nil slice).symm, by rw [Nat.zero_add], halone⟩⟩

/-- A table in a table, one of whose keys comes twice, and an octet behind. -/
def tableInTable : Octets :=
  [0, 0, 0, 15, 1, 116, 70, 0, 0, 0, 8, 1, 97, 66, 5, 1, 97, 116, 1, 206]

/-- What is read of it. -/
def nestedEntry : Table := Table.ofList [("t", .table (Table.ofList [("a", .bit true)]))]

/-- The nineteen octets of the table are read in place, inside 62 tables and behind seven octets,
and by the plain reader. -/
theorem readTable_tableInTable :
    readValue 2 .table ⟨7, tableInTable⟩ = .ok (.table nestedEntry) ⟨26, [206]⟩ ∧
    Sliced.value 2 .table tableInTable = some (.table nestedEntry, [206]) ∧
    ∃ slice, tableInTable = slice ++ [206] ∧ slice.length = 19 ∧
      readValue 2 .table (.ofOctets slice) = .ok (.table nestedEntry) ⟨19, []⟩ := by
  obtain ⟨hiff, hslice⟩ := readTable_iff_sliced 7 62 tableInTable nestedEntry
  have hread : readValue 2 .table ⟨7, tableInTable⟩ = .ok (.table nestedEntry) ⟨26, [206]⟩ := by
    decide +kernel
  obtain ⟨rest, hparse, hr⟩ := (hiff _).1 hread
  obtain rfl := (Reader.mk.inj hr).2
  obtain ⟨slice, hahead, hlength, -, halone⟩ := hslice _ hparse
  have hnineteen : slice.length = 19 := hlength
  rw [hnineteen] at halone
  exact ⟨hread, hparse, slice, hahead, hnineteen, halone⟩

/-- A table that claims more octets than are left of the table around it is refused, though the
input has them. -/
example : readValue 2 .table ⟨0, [0, 0, 0, 7, 1, 116, 70, 0, 0, 0, 4, 1, 97, 66, 5]⟩
    = .error .tableOverrun ⟨15, []⟩ := by decide +kernel

end FrameSchema.Wire
