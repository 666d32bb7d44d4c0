import FrameSchema.Proofs.Wire.ReceivedLists
import FrameSchema.Proofs.Wire.SlicedTables

/-!
# Proofs/Wire/SelfDelimiting — what was read tells by itself where it ends

Whatever an operation took off some input it takes off every input that starts with the same octets,
with the same result; and an input that breaks off within these octets is found to be too short, and
at fault in no other way (`SelfDelimiting`).  Lengths are checked before anything behind them is
looked at, so a table or a text that is cut is short as a whole (`starves_checkLength`), and the
property is kept by sequencing (`parametric_selfDelimiting`).  Tables need the plain reader: their
entries are read up to a place in the input, which `Mirrors` shows not to matter.
-/

namespace FrameSchema.Wire

variable {α β : Type}

/-! ## Inputs that break off -/

/-- A list that breaks off within a row of two does so within the first or within the second. -/
theorem front_of_append {front s t : Octets} (hstart : front <+: s ++ t)
    (hne : front ≠ s ++ t) : (front <+: s ∧ front ≠ s) ∨
      ∃ front', front = s ++ front' ∧ front' <+: t ∧ front' ≠ t := by
  by_cases hshort : front <+: s ∧ front ≠ s
  · exact .inl hshort
  · have hlong : s <+: front := by
      rcases List.prefix_or_prefix_of_prefix hstart (List.prefix_append s t) with h | h
      · rw [not_and, ne_eq, not_not] at hshort
        exact (hshort h).symm ▸ List.prefix_rfl
      · exact h
    obtain ⟨front', rfl⟩ := hlong
    refine .inr ⟨front', rfl, (List.prefix_append_right_inj s).1 hstart, ?_⟩
    rintro rfl
    exact hne rfl

theorem length_lt_of_front {front octets : Octets} (hstart : front <+: octets)
    (hne : front ≠ octets) : front.length < octets.length :=
  lt_of_le_of_ne hstart.length_le fun h => hne (hstart.eq_of_length h)

/-- Where the input breaks off within these octets, the operation finds it too short. -/
def Starves (read : Read α) (octets : Octets) : Prop :=
  ∀ (position : Nat) (front : Octets), front <+: octets → front ≠ octets →
    ∃ cause r, read ⟨position, front⟩ = .error cause r ∧ cause.isInput

namespace Starves

variable {x : Read α} {f : α → Read β} {s t : Octets}

theorem nil (read : Read α) : Starves read [] := by
  intro position front hstart hne
  exact absurd (List.prefix_nil.1 hstart) hne

/-- A sequence starves where its first step does, and behind it where the next one does. -/
theorem bind {a : α} (hx : Reads x s a) (hs : Starves x s) (ht : Starves (f a) t) :
    Starves (x >>= f) (s ++ t) := by
  intro position front hstart hne
  rcases front_of_append hstart hne with ⟨hfront, hne⟩ | ⟨front', rfl, hfront, hne⟩
  · obtain ⟨cause, r, herror, hinput⟩ := hs position front hfront hne
    exact ⟨cause, r, by grind, hinput⟩
  · have hread := hx position front'
    obtain ⟨cause, r, herror, hinput⟩ := ht (position + s.length) front' hfront hne
    exact ⟨cause, r, by grind, hinput⟩

/-- An operation that always finds the input too short does so within any octets. -/
theorem throw {cause : Error} (h : cause.isInput) (octets : Octets) :
    Starves (throw cause : Read α) octets := by
  intro position front _ _
  exact ⟨cause, _, rfl, h⟩

/-- A sequence starves where its first step does, if nothing is taken behind it. -/
theorem map (hx : Starves x s) (f : α → Read β) : Starves (x >>= f) s := by
  intro position front hstart hne
  obtain ⟨cause, r, herror, hinput⟩ := hx position front hstart hne
  exact ⟨cause, r, by grind, hinput⟩

end Starves

/-- Fewer octets than are asked for are too few. -/
theorem starves_readExactly (octets : Octets) : Starves (readExactly octets.length) octets := by
  intro position front hstart hne
  have hlt := length_lt_of_front hstart hne
  have hshort : (front.take octets.length).length ≠ octets.length := by
    rw [List.length_take]
    omega
  exact ⟨_, _, if_neg hshort, rfl⟩

/-- A number that breaks off is too short. -/
theorem starves_readNat (width n : Nat) : Starves (readNat width) (Octets.bigEndian width n) := by
  have hdigits := starves_readExactly (Octets.bigEndian width n)
  rw [Octets.length_bigEndian] at hdigits
  exact hdigits.map _

/-- **A length that reaches past the input is refused** before anything behind it is looked at. -/
theorem starves_checkLength (octets : Octets) (f : Unit → Read β) :
    Starves (checkLength octets.length >>= f) octets := by
  intro position front hstart hne
  have hshort : ¬octets.length ≤ (⟨position, front⟩ : Reader).remaining :=
    Nat.not_le.2 (length_lt_of_front hstart hne)
  exact ⟨_, _, bind_of_error (if_neg hshort), rfl⟩

/-! ## Self-delimiting operations -/

/-- **The octets that the operation takes tell where they end.**  It takes the same octets, with the
same result, off every input that starts with them, and finds every input too short that breaks off
within them. -/
def SelfDelimiting (read : Read α) : Prop :=
  Yields read fun octets a => Reads read octets a ∧ Starves read octets

theorem reads_pure_iff {a b : α} {octets : Octets} :
    Reads (Pure.pure a : Read α) octets b ↔ [] = octets ∧ a = b := by
  constructor
  · intro hreads
    obtain ⟨hb, hend⟩ := EStateM.Result.ok.inj (hreads 0 [])
    exact ⟨by simpa using (Reader.mk.inj hend).2.symm, hb⟩
  · rintro ⟨rfl, rfl⟩
    exact .pure a

namespace SelfDelimiting

variable {x : Read α} {f : α → Read β}

theorem pure (a : α) : SelfDelimiting (Pure.pure a : Read α) := Yields.pure ⟨.pure a, .nil _⟩

theorem throw (cause : Error) : SelfDelimiting (throw cause : Read α) := Yields.throw

/-- A sequence tells where it ends if its steps do. -/
theorem bind (hx : SelfDelimiting x) (hf : ∀ a, SelfDelimiting (f a)) :
    SelfDelimiting (x >>= f) :=
  Yields.bind hx fun _ a ⟨hs, hs'⟩ => (hf a).imp fun _ _ ⟨ht, ht'⟩ =>
    ⟨hs.bind ht, .bind hs hs' ht'⟩

/-- A step that takes nothing does not change where the octets end. -/
theorem map (hx : SelfDelimiting x) (g : α → β) :
    SelfDelimiting (x >>= fun a => Pure.pure (g a)) :=
  hx.bind fun a => .pure (g a)

/-- A result is what its octets read, wherever they stand. -/
theorem ok_iff (hx : SelfDelimiting x) {position : Nat} {input : Octets} {a : α} {r : Reader} :
    x ⟨position, input⟩ = .ok a r ↔ ∃ octets rest, Reads x octets a ∧ octets ++ rest = input ∧
      ⟨position + octets.length, rest⟩ = r := by
  constructor
  · intro hok
    obtain ⟨octets, rest, rfl, rfl, hreads, -⟩ := hx position input a r hok
    exact ⟨octets, rest, hreads, rfl, rfl⟩
  · rintro ⟨octets, rest, hreads, rfl, rfl⟩
    exact hreads position rest

/-- **A sequence reads what its two steps read**, one behind the other. -/
theorem reads_bind_iff (hx : SelfDelimiting x) (hf : ∀ a, SelfDelimiting (f a)) {octets : Octets}
    {b : β} : Reads (x >>= f) octets b ↔
      ∃ s t a, Reads x s a ∧ Reads (f a) t b ∧ s ++ t = octets := by
  constructor
  · intro hreads
    obtain ⟨a, r, hxa, hfb⟩ := bind_eq_ok (hreads 0 [])
    obtain ⟨s, rest, hs, hsrest, rfl⟩ := hx.ok_iff.1 hxa
    obtain ⟨t, rest, ht, rfl, hend⟩ := (hf a).ok_iff.1 hfb
    obtain rfl := (Reader.mk.inj hend).2
    simp only [List.append_nil] at hsrest
    exact ⟨s, t, a, hs, ht, hsrest⟩
  · rintro ⟨s, t, a, hs, ht, rfl⟩
    exact hs.bind ht

/-- A step that takes nothing adds no octets. -/
theorem reads_map_iff {g : α → β} (hx : SelfDelimiting x) {octets : Octets} {b : β} :
    Reads (x >>= fun a => Pure.pure (g a)) octets b ↔ ∃ a, Reads x octets a ∧ g a = b := by
  simp only [hx.reads_bind_iff fun a => .pure (g a), reads_pure_iff]
  constructor
  · rintro ⟨s, _, a, hs, ⟨rfl, hb⟩, rfl⟩
    exact ⟨a, by rwa [List.append_nil], hb⟩
  · rintro ⟨a, ha, hb⟩
    exact ⟨octets, [], a, ha, ⟨rfl, hb⟩, List.append_nil octets⟩

end SelfDelimiting

/-! ## Numbers and texts -/

theorem selfDelimiting_readExactly (count : Nat) : SelfDelimiting (readExactly count) :=
  (yields_readExactly count).imp fun s octets h => by
    obtain ⟨rfl, rfl⟩ := h
    exact ⟨reads_readExactly octets, starves_readExactly octets⟩

theorem selfDelimiting_readNat (width : Nat) : SelfDelimiting (readNat width) :=
  (selfDelimiting_readExactly width).map Octets.toNat

/-- A text tells its end by its length, which is checked first. -/
theorem selfDelimiting_readText (count : Nat) : SelfDelimiting (readText count) :=
  (yields_readText count).imp fun s text h => by
    obtain ⟨rfl, rfl⟩ := h
    exact ⟨reads_readText text, starves_checkLength _ _⟩

/-! ## Tables, values and field lists -/

/-- A slice is read as an input that holds nothing else. -/
def sliceOf (read : Read α) : Sliced.Parse α := fun slice =>
  match read (.ofOctets slice) with
  | .ok a r => some (a, r.rest)
  | .error _ _ => none

/-- What is self-delimiting may as well be read from a slice. -/
theorem SelfDelimiting.mirrors_sliceOf {read : Read α} (h : SelfDelimiting read) :
    Mirrors read (sliceOf read) where
  takes := h.imp fun octets a ⟨hreads, _⟩ rest => by rw [sliceOf, Reader.ofOctets, hreads 0 rest]
  reads {slice a rest} hparse := by
    rw [sliceOf] at hparse
    split at hparse
    case h_1 b r hok =>
      obtain ⟨rfl, rfl⟩ := Prod.mk.inj (Option.some.inj hparse)
      obtain ⟨octets, rest, hreads, hslice, rfl⟩ := h.ok_iff.1 hok
      exact ⟨octets, hslice.symm, hreads⟩
    case h_2 => cases hparse

/-- **A table is self-delimiting** if the values in it are: the octets that it claims are there
before the first of them is read. -/
theorem selfDelimiting_readTable {nested : Primitive → Read Value}
    (h : ∀ kind, SelfDelimiting (nested kind)) : SelfDelimiting (readTable nested) := by
  have htable := mirrors_readTable fun kind => (h kind).mirrors_sliceOf
  intro position input t r hok
  obtain ⟨octets, rest, hinput, hr, hreads⟩ := htable.yields_reads position input t r hok
  refine ⟨octets, rest, hinput, hr, hreads, ?_⟩
  obtain ⟨_, rest, -, hend, hparse⟩ := htable.ok_iff.1 (hreads 0 [])
  obtain rfl := (Reader.mk.inj hend).2
  rw [List.append_nil] at hparse
  obtain ⟨body, hlt, rfl, -⟩ := Sliced.table_eq_some_iff.1 hparse
  rw [List.append_nil]
  exact .bind (reads_readNat hlt) (starves_readNat 4 body.length) (starves_checkLength body _)

/-- **Whatever is read is self-delimiting**, if it does not look at how much input is left. -/
theorem parametric_selfDelimiting : Parametric fun x _ => SelfDelimiting x where
  pure := .pure
  throw {_ cause} _ := .throw cause
  bind := .bind
  readNat := selfDelimiting_readNat
  readText := selfDelimiting_readText
  readTable h _ := selfDelimiting_readTable h

/-- A field list tells where it ends, as every field of it does. -/
theorem selfDelimiting_readFields (kinds : List Primitive) : SelfDelimiting (readFields kinds) :=
  parametric_selfDelimiting.readFields kinds

/-! ## Optional field lists -/

/-- **A run of flag words that breaks off is too short**, whatever the budget: a budget that is used
up stands for an input that is. -/
theorem FlagRun.starves {words : List UInt16} {flags : List Bool} (h : FlagRun words flags) :
    ∀ budget : Nat, Starves (readFlags budget) (flagOctets words) := by
  have hword (word : UInt16) : Starves readShort (Octets.bigEndian 2 word.toNat) :=
    (starves_readNat 2 word.toNat).map _
  induction h with
  | @last word h =>
    intro budget
    rw [flagOctets, List.flatMap_singleton]
    cases budget with
    | zero => exact .throw rfl _
    | succ budget =>
      rw [readFlags]
      exact (hword word).map _
  | @more word words flags h _ ih =>
    intro budget
    cases budget with
    | zero => exact .throw rfl _
    | succ budget =>
      rw [readFlags, flagOctets, List.flatMap_cons, ← flagOctets]
      refine .bind (reads_readShort word) (hword word) ?_
      rw [if_neg fun hlast => by rw [word_and_one_eq_zero_iff.1 hlast] at h; cases h]
      exact (ih budget).map _

/-- **An optional field list is self-delimiting.**  Its budget of flag words is what is left of the
input, so its two parts are not a sequence of operations that do not know of the input. -/
theorem selfDelimiting_readOptionalFields (kinds : List Primitive) :
    SelfDelimiting (readOptionalFields kinds) := by
  refine .get fun r => (yields_readFlags _).bind fun s flags ⟨words, hrun, hs⟩ =>
    (parametric_selfDelimiting.readPresent flags kinds).imp fun t values ⟨hreads, hstarves⟩ => ?_
  subst hs
  refine ⟨hrun.reads_values hreads, fun position front hstart hne => ?_⟩
  rw [readOptionalFields, get_bind]
  rcases front_of_append hstart hne with ⟨hfront, hne⟩ | ⟨front', rfl, hfront, hne⟩
  · exact (hrun.starves _).map _ position front hfront hne
  · have hflags := hrun.reads (length_le_room words front') position front'
    obtain ⟨cause, r, herror, hinput⟩ := hstarves _ front' hfront hne
    exact ⟨cause, r, (bind_of_ok hflags).trans herror, hinput⟩

/-! ## Field lists in an input -/

/-- The first `n` octets ahead tell by themselves that they end there: whatever stands behind them
and in front of them, the result is the same, and of fewer of them there is none, for the one reason
that they are too few. -/
structure EndsAfter (read : Read α) (ahead : Octets) (n : Nat) (a : α) : Prop where
  within : n ≤ ahead.length
  same : ∀ (position : Nat) (ahead' : Octets), ahead'.take n = ahead.take n →
    read ⟨position, ahead'⟩ = .ok a ⟨position + n, ahead'.drop n⟩
  short : ∀ (position k : Nat), k < n →
    ∃ cause r, read ⟨position, ahead.take k⟩ = .error cause r ∧ cause.isInput

/-- What was read by a self-delimiting operation ends behind the octets that it took. -/
theorem SelfDelimiting.exists_endsAfter {read : Read α} (h : SelfDelimiting read) {position : Nat}
    {ahead : Octets} {a : α} {r : Reader} (hok : read ⟨position, ahead⟩ = .ok a r) :
    ∃ n, r = ⟨position + n, ahead.drop n⟩ ∧ EndsAfter read ahead n a := by
  obtain ⟨octets, rest, rfl, rfl, hreads, hstarves⟩ := h position ahead a r hok
  refine ⟨octets.length, by rw [List.drop_left], ?_, ?_, ?_⟩
  · rw [List.length_append]
    exact Nat.le_add_right _ _
  · intro position ahead' hsame
    rw [List.take_left] at hsame
    have hread := hreads position (ahead'.drop octets.length)
    nth_rewrite 1 [← hsame] at hread
    rwa [List.take_append_drop] at hread
  · intro position k hk
    have hfront : (octets ++ rest).take k = octets.take k :=
      List.take_append_of_le_length hk.le
    rw [hfront]
    refine hstarves position _ (List.take_prefix k octets) fun h => ?_
    have hlength : (octets.take k).length = k := List.length_take_of_le hk.le
    rw [h] at hlength
    exact hk.ne' hlength

/-- **Field lists are self-delimiting.**  Where a field list is read anywhere in an input, or an
optional one, the octets that it took tell by themselves that it ends behind them. -/
theorem fieldLists_endAfter (kinds : List Primitive) (position : Nat) (ahead : Octets) :
    (∀ values r, readFields kinds ⟨position, ahead⟩ = .ok values r →
      ∃ n, r = ⟨position + n, ahead.drop n⟩ ∧ EndsAfter (readFields kinds) ahead n values) ∧
    ∀ values r, readOptionalFields kinds ⟨position, ahead⟩ = .ok values r →
      ∃ n, r = ⟨position + n, ahead.drop n⟩ ∧
        EndsAfter (readOptionalFields kinds) ahead n values := by
  constructor
  · intro values r hok
    exact (selfDelimiting_readFields kinds).exists_endsAfter hok
  · intro values r hok
    exact (selfDelimiting_readOptionalFields kinds).exists_endsAfter hok

/-- The values of a list whose table is written with a key too many and out of order. -/
def lenientValues : List Value := [.bit true, .bit false,
  .table (Table.ofList [("a", .bit true), ("b", .octet 2)]), .bit false]

/-- The eighteen octets of a list that was read behind an octet are read at the start of an input,
with others behind them, and no fewer of them are; so are the six octets of an optional list. -/
theorem lenientFields_endAfter :
    (readFields [.bit, .bit, .table, .bit] ⟨0, (lenientFields.drop 1).take 18 ++ [255, 255]⟩
        = .ok lenientValues ⟨18, [255, 255]⟩ ∧
      ∀ k < 18, ∃ cause r, readFields [.bit, .bit, .table, .bit]
        ⟨0, (lenientFields.drop 1).take k⟩ = .error cause r ∧ cause.isInput) ∧
    readOptionalFields [.octet, .bit] ⟨0, (lenientPresent.drop 1).take 6⟩
        = .ok [some (.octet 7), some (.bit true)] ⟨6, []⟩ ∧
      ∀ k < 6, ∃ cause r, readOptionalFields [.octet, .bit]
        ⟨0, (lenientPresent.drop 1).take k⟩ = .error cause r ∧ cause.isInput := by
  constructor
  · have hread : readFields [.bit, .bit, .table, .bit] ⟨1, lenientFields.drop 1⟩
        = .ok lenientValues ⟨19, [5]⟩ := by decide +kernel
    obtain ⟨n, hr, hends⟩ := (fieldLists_endAfter _ 1 (lenientFields.drop 1)).1 _ _ hread
    obtain rfl : 18 = n := Nat.add_left_cancel (Reader.mk.inj hr).1
    exact ⟨hends.same 0 _ rfl, hends.short 0⟩
  · have hread : readOptionalFields [.octet, .bit] ⟨1, lenientPresent.drop 1⟩
        = .ok [some (.octet 7), some (.bit true)] ⟨7, [5]⟩ := by decide +kernel
    obtain ⟨n, hr, hends⟩ := (fieldLists_endAfter _ 1 (lenientPresent.drop 1)).2 _ _ hread
    obtain rfl : 6 = n := Nat.add_left_cancel (Reader.mk.inj hr).1
    exact ⟨hends.same 0 _ rfl, hends.short 0⟩

end FrameSchema.Wire
