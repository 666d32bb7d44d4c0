import FrameSchema.Proofs.Wire.OptionalRoundTrip

/-!
# Proofs/Wire/FlagLayout — where the presence flags of an optional field list stand

Fifteen presences go into a flag word, from its highest bit downwards, and the lowest bit tells of a
successor (`FlagLayout`).  What a run of words tells is the bits of its words in this order
(`FlagRun.getElem?_eq`), so the layout of the words written follows from the run that they are, and
from their number (`length_flagWords`).
-/

namespace FrameSchema.Wire

/-- **The layout of flag words**: presence `i` is told by bit `15 - i % 15` of word `i / 15`, bit 0
is set in all words but the last, and no other bit is set. -/
structure FlagLayout (present : List Bool) (words : List UInt16) : Prop where
  length : words.length = max 1 ((present.length + 14) / 15)
  flag : ∀ i p, present[i]? = some p → ∃ word, words[i / 15]? = some word ∧
    word.toNat.testBit (15 - i % 15) = p
  successor : ∀ j word, words[j]? = some word →
    (word.toNat.testBit 0 = true ↔ j + 1 < words.length)
  clear : ∀ j word, words[j]? = some word → ∀ bit, 0 < bit → bit ≤ 15 →
    present.length ≤ 15 * j + (15 - bit) → word.toNat.testBit bit = false

/-! ## Runs of words, bit by bit -/

@[simp] theorem length_flagsOf (word : UInt16) : (flagsOf word).length = 15 := by
  simp [flagsOf, flagsPerWord]

theorem getElem?_flagsOf {word : UInt16} {i : Nat} (h : i < 15) :
    (flagsOf word)[i]? = some (word.toNat.testBit (15 - i)) := by
  rw [flagsOf_eq_upperFlags, upperFlags, flagsPerWord, List.getElem?_map, List.getElem?_range h]
  rfl

/-- What a run tells at a place is the bit of its word for that place. -/
theorem FlagRun.getElem?_eq {words : List UInt16} {flags : List Bool} (h : FlagRun words flags)
    (i : Nat) : flags[i]? = words[i / 15]?.map fun word => word.toNat.testBit (15 - i % 15) := by
  induction h generalizing i with
  | @last word h =>
    by_cases hi : i < 15
    · rw [getElem?_flagsOf hi, Nat.div_eq_of_lt hi, Nat.mod_eq_of_lt hi]
      rfl
    · have hword : 1 ≤ i / 15 := by omega
      rw [List.getElem?_eq_none (by simpa using hi), List.getElem?_eq_none hword]
      rfl
  | @more word words flags h rest ih =>
    by_cases hi : i < 15
    · rw [List.getElem?_append_left (by simpa using hi), getElem?_flagsOf hi,
        Nat.div_eq_of_lt hi, Nat.mod_eq_of_lt hi]
      rfl
    · obtain ⟨k, rfl⟩ : ∃ k, i = k + 15 := ⟨i - 15, by omega⟩
      rw [List.getElem?_append_right (by simp), length_flagsOf,
        Nat.add_sub_cancel, ih k, Nat.add_div_right k (by decide), Nat.add_mod_right,
        List.getElem?_cons_succ]

/-- In a run exactly the words in front of the last have a successor. -/
theorem FlagRun.testBit_zero_iff {words : List UInt16} {flags : List Bool}
    (h : FlagRun words flags) {j : Nat} {word : UInt16} (hword : words[j]? = some word) :
    word.toNat.testBit 0 = true ↔ j + 1 < words.length := by
  induction h generalizing j with
  | last h =>
    cases j with
    | zero =>
      obtain rfl := Option.some.inj hword
      simp [h]
    | succ j => cases hword
  | more h rest ih =>
    cases j with
    | zero =>
      obtain rfl := Option.some.inj hword
      cases rest <;> simp [h]
    | succ j =>
      rw [ih hword, List.length_cons]
      omega

/-! ## The words written -/

/-- Behind a word that has room for some flags, every fifteen of the others take a word. -/
theorem length_flagWordsAfter : ∀ (present : List Bool) (word : UInt16) {free : Nat}, free ≤ 15 →
    (flagWordsAfter word free present).length = 1 + (present.length - free + 14) / 15
  | [], _, _, _ => by simp [flagWordsAfter]
  | p :: present, word, 0, _ => by
      rw [flagWordsAfter, List.length_cons, length_flagWordsAfter present _ (by decide)]
      simp only [flagsPerWord, List.length_cons]
      omega
  | p :: present, word, free + 1, h => by
      rw [flagWordsAfter, length_flagWordsAfter present _ (Nat.le_of_succ_le h), List.length_cons,
        Nat.add_sub_add_right]

/-- Flags take a word for every fifteen, and one if there are none. -/
@[simp] theorem length_flagWords (present : List Bool) :
    (flagWords present).length = max 1 ((present.length + 14) / 15) := by
  rw [flagWords, flagsPerWord, length_flagWordsAfter present 0 le_rfl]
  omega

/-- **The flag words of presences are laid out as documented.** -/
theorem flagLayout_flagWords (present : List Bool) : FlagLayout present (flagWords present) := by
  obtain ⟨padding, hrun⟩ := flagRun_flagWords present
  refine ⟨length_flagWords present, ?_, fun j word hword => hrun.testBit_zero_iff hword, ?_⟩
  · intro i p hp
    have hflag : (present ++ List.replicate padding false)[i]? = some p :=
      (List.getElem?_append_left (List.getElem?_eq_some_iff.1 hp).1).trans hp
    rw [hrun.getElem?_eq i] at hflag
    exact Option.map_eq_some_iff.1 hflag
  · intro j word hword bit hpos hle hlength
    have hplace : (15 * j + (15 - bit)) / 15 = j := by omega
    have hbit : 15 - (15 * j + (15 - bit)) % 15 = bit := by omega
    have hflag := hrun.getElem?_eq (15 * j + (15 - bit))
    rw [hplace, hbit, hword, List.getElem?_append_right hlength, Option.map_some] at hflag
    exact List.eq_of_mem_replicate (List.mem_of_getElem? hflag)

/-! ## The list as a whole -/

theorem getElem?_takeD {α : Type} (a : α) (l : List α) {n i : Nat} (h : i < n) :
    (l.takeD n a)[i]? = some (l.getD i a) := by
  induction n generalizing i l with
  | zero => exact absurd h (Nat.not_lt_zero i)
  | succ n ih =>
    rw [List.takeD]
    cases i with
    | zero => cases l <;> rfl
    | succ i =>
      rw [List.getElem?_cons_succ, ih l.tail (Nat.lt_of_succ_lt_succ h)]
      cases l <;> rfl

/-- **Optional field lists: their layout, and how they are read.**  The octets written start with
the flag words of the presences, laid out as documented, and go on with the present values alone.
They are read by any list of kinds that suits the present values it meets: value by value as far as
both go, as absent behind the last value, and up to the end of the octets if no kind is missing. -/
theorem readOptionalFields_writeOptionalFields {values : List (Option Value)} {octets : Octets}
    (h : writeOptionalFields values = .complete octets) :
    (∃ words body, FlagLayout (values.map Option.isSome) words ∧
      writeValues (values.filterMap id) = .complete body ∧
      octets = words.flatMap (fun word => Octets.bigEndian 2 word.toNat) ++ body) ∧
    ∀ kinds : List Primitive,
      (∀ (i : Nat) (kind : Primitive) (v : Value), kinds[i]? = some kind →
        values[i]? = some (some v) → v.primitive = kind ∧ v.tableDepth ≤ 64) →
      ∀ (position : Nat) (rest : Octets), ∃ result reader,
        readOptionalFields kinds ⟨position, octets ++ rest⟩ = .ok result reader ∧
        result.length = kinds.length ∧
        (∀ i < kinds.length, result[i]? = some (values.getD i none)) ∧
        (values.length ≤ kinds.length → reader = ⟨position + octets.length, rest⟩) := by
  constructor
  · obtain ⟨body, hbody, rfl⟩ := writeOptionalFields_eq_complete_iff.1 h
    exact ⟨_, body, flagLayout_flagWords _, hbody, rfl⟩
  · intro kinds hkinds position rest
    have hanswers : Answers kinds values := by
      rintro ⟨kind, value⟩ hpair v hv
      obtain ⟨i, hi⟩ := List.mem_iff_getElem?.1 hpair
      obtain ⟨hkind, hvalue⟩ := List.getElem?_zip_eq_some.1 hi
      obtain rfl := Option.mem_def.1 hv
      exact hkinds i kind v hkind hvalue
    obtain ⟨s, t, rfl, ht, hread⟩ := reads_readOptionalFields hanswers h
    refine ⟨_, _, by rw [List.append_assoc]; exact hread position (t ++ rest), List.takeD_length ..,
      fun i hi => getElem?_takeD none values hi, fun hlength => ?_⟩
    rw [ht hlength, List.append_nil, List.nil_append]

/-- Fifteen absent values and a present one. -/
def sixteenth : List (Option Value) := List.replicate 15 none ++ [some (.octet 7)]

/-- The sixteenth value is told by a second word, and read by a reader that knows a seventeenth. -/
theorem readOptionalFields_sixteenth :
    writeOptionalFields sixteenth = .complete [0, 1, 128, 0, 7] ∧
    (∃ words, FlagLayout (sixteenth.map Option.isSome) words ∧ words.length = 2) ∧
    ∃ result reader,
      readOptionalFields (List.replicate 15 .bit ++ [.octet, .table]) ⟨0, [0, 1, 128, 0, 7] ++ [9]⟩
        = .ok result reader ∧
      result.length = 17 ∧ result[15]? = some (some (.octet 7)) ∧ result[16]? = some none ∧
      reader = ⟨5, [9]⟩ := by
  have hwrite : writeOptionalFields sixteenth = .complete [0, 1, 128, 0, 7] := by decide +kernel
  obtain ⟨⟨words, _, hwords, _, _⟩, hread⟩ := readOptionalFields_writeOptionalFields hwrite
  have hkinds : ∀ (i : Nat) (kind : Primitive) (v : Value),
      (List.replicate 15 .bit ++ [.octet, .table] : List Primitive)[i]? = some kind →
      sixteenth[i]? = some (some v) → v.primitive = kind ∧ v.tableDepth ≤ 64 := by
    intro i kind v hkind hvalue
    have hi : i < 16 := (List.getElem?_eq_some_iff.1 hvalue).1
    rcases Nat.lt_or_ge i 15 with hlt | hge
    · rw [sixteenth, List.getElem?_append_left hlt, List.getElem?_replicate, if_pos hlt] at hvalue
      cases hvalue
    · obtain rfl : i = 15 := by omega
      obtain rfl := Option.some.inj hkind
      obtain rfl := Option.some.inj (Option.some.inj hvalue)
      exact ⟨rfl, by decide⟩
  obtain ⟨result, reader, hok, hlength, hresult, hreader⟩ := hread _ hkinds 0 [9]
  exact ⟨hwrite, ⟨words, hwords, hwords.length⟩, result, reader, hok, hlength,
    hresult 15 (by decide), hresult 16 (by decide), hreader (by decide)⟩

end FrameSchema.Wire
