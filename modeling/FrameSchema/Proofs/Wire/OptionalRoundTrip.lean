import FrameSchema.Wire.OptionalFieldList
import FrameSchema.Proofs.Wire.FieldListRoundTrip
import Mathlib.Data.List.TakeDrop

/-!
# Proofs/Wire/OptionalRoundTrip — an optional field list is read back

A run of flag words ends with the first word whose lowest bit is clear, and tells fifteen presences
a word (`FlagRun`).  The words written for some presences are such a run, and what it tells is those
presences and then absences up to the end of the last word (`flagRun_flagWords`), so the values
behind the words are read at their places (`reads_readPresent`).  The two sides may know a different
number of fields; where they know the same, all is read back (`reads_writeOptionalFields`).
-/

namespace FrameSchema.Wire

/-! ## Flag words -/

/-- The presences told by the upper bits of a word. -/
def upperFlags (word : UInt16) (count : Nat) : List Bool :=
  (List.range count).map fun i => word.toNat.testBit (flagsPerWord - i)

/-- The flags of a word are its upper fifteen bits. -/
theorem flagsOf_eq_upperFlags (word : UInt16) : flagsOf word = upperFlags word flagsPerWord :=
  List.map_congr_left fun _ _ => word_and_mask (by rw [flagsPerWord]; omega)

theorem upperFlags_succ (word : UInt16) (count : Nat) : upperFlags word (count + 1)
    = upperFlags word count ++ [word.toNat.testBit (flagsPerWord - count)] := by
  rw [upperFlags, List.range_succ, List.map_append, List.map_singleton, upperFlags]

/-- The upper flags are those of another word with the same upper bits. -/
theorem upperFlags_congr {word word' : UInt16} {count : Nat}
    (h : ∀ i < count, word.toNat.testBit (flagsPerWord - i)
      = word'.toNat.testBit (flagsPerWord - i)) : upperFlags word count = upperFlags word' count :=
  List.map_congr_left fun i hi => h i (List.mem_range.1 hi)

/-- A flag that is set has its own bit, and no other. -/
theorem testBit_flagBit {bit i : Nat} (h : bit < 16) (present : Bool) :
    (flagBit bit present).toNat.testBit i = (present && decide (bit = i)) := by
  cases present with
  | false => rw [flagBit, if_neg Bool.false_ne_true, UInt16.toNat_zero, Nat.zero_testBit,
      Bool.false_and]
  | true => rw [flagBit, if_pos rfl, toNat_wordMask h, Nat.testBit_two_pow, Bool.true_and]

/-- **A run of flag words**: all but the last have a successor, and the flags follow each other. -/
inductive FlagRun : List UInt16 → List Bool → Prop where
  | last {word : UInt16} (h : word.toNat.testBit 0 = false) : FlagRun [word] (flagsOf word)
  | more {word : UInt16} {words : List UInt16} {flags : List Bool}
      (h : word.toNat.testBit 0 = true) (rest : FlagRun words flags) :
      FlagRun (word :: words) (flagsOf word ++ flags)

/-- Where the free bits are clear, the flags of a word are those taken and then absences. -/
theorem upperFlags_append_replicate {word : UInt16} : ∀ {free : Nat}, free ≤ flagsPerWord →
    (∀ i ≤ free, word.toNat.testBit i = false) →
      upperFlags word (flagsPerWord - free) ++ List.replicate free false = flagsOf word
  | 0, _, _ => by
      rw [Nat.sub_zero, List.replicate_zero, List.append_nil, flagsOf_eq_upperFlags]
  | free + 1, hfree, hclear => by
      have hcount : flagsPerWord - free = flagsPerWord - (free + 1) + 1 := by omega
      have hbit : flagsPerWord - (flagsPerWord - (free + 1)) = free + 1 := by omega
      rw [← upperFlags_append_replicate (Nat.le_of_succ_le hfree)
        fun i hi => hclear i (Nat.le_succ_of_le hi), hcount, upperFlags_succ, hbit,
        hclear (free + 1) le_rfl, List.append_assoc, List.replicate_succ]
      rfl

/-- A presence is told by the highest free bit. -/
theorem upperFlags_or_flagBit {word : UInt16} {free : Nat} (hfree : free + 1 ≤ flagsPerWord)
    (hclear : word.toNat.testBit (free + 1) = false) (p : Bool) :
    upperFlags (word ||| flagBit (free + 1) p) (flagsPerWord - free)
      = upperFlags word (flagsPerWord - (free + 1)) ++ [p] := by
  have h16 : free + 1 < 16 := by rw [flagsPerWord] at hfree; omega
  have hbits : ∀ i, (word ||| flagBit (free + 1) p).toNat.testBit i
      = (word.toNat.testBit i || (p && decide (free + 1 = i))) := fun i => by
    rw [UInt16.toNat_or, Nat.testBit_or, testBit_flagBit h16]
  have hcount : flagsPerWord - free = flagsPerWord - (free + 1) + 1 := by omega
  have htop : flagsPerWord - (flagsPerWord - (free + 1)) = free + 1 := by omega
  rw [hcount, upperFlags_succ, htop, hbits, hclear, decide_eq_true rfl, Bool.false_or,
    Bool.and_true]
  refine congrArg (· ++ [p]) (upperFlags_congr fun i hi => ?_)
  rw [hbits, decide_eq_false (by omega), Bool.and_false, Bool.or_false]

/-- The words written behind a word with free bits tell what it told, the presences, and then
absences. -/
theorem flagRun_flagWordsAfter : ∀ (present : List Bool) {word : UInt16} {free : Nat},
    free ≤ flagsPerWord → (∀ i ≤ free, word.toNat.testBit i = false) →
      ∃ padding, FlagRun (flagWordsAfter word free present)
        (upperFlags word (flagsPerWord - free) ++ present ++ List.replicate padding false)
  | [], word, free, hfree, hclear => by
      refine ⟨free, ?_⟩
      rw [List.append_nil, upperFlags_append_replicate hfree hclear, flagWordsAfter]
      exact .last (hclear 0 (Nat.zero_le _))
  | p :: present, word, 0, _, hclear => by
      -- The word is full, so it is told to have a successor, which starts with the presence.
      have hbits : ∀ i, (word ||| 1).toNat.testBit i
          = (word.toNat.testBit i || decide (0 = i)) := fun i =>
        testBit_word_or_mask (i := 0) (by decide)
      have hnew : ∀ i ≤ flagsPerWord - 1,
          (flagBit flagsPerWord p).toNat.testBit i = false := fun i hi => by
        rw [testBit_flagBit (by decide), decide_eq_false (by rw [flagsPerWord] at *; omega),
          Bool.and_false]
      obtain ⟨padding, hrun⟩ := flagRun_flagWordsAfter present (Nat.sub_le _ _) hnew
      have hfirst : upperFlags (flagBit flagsPerWord p) (flagsPerWord - (flagsPerWord - 1))
          = [p] := by
        rw [show flagsPerWord - (flagsPerWord - 1) = 0 + 1 from rfl, upperFlags_succ, Nat.sub_zero,
          testBit_flagBit (by decide), decide_eq_true rfl, Bool.and_true]
        rfl
      have hold : flagsOf (word ||| 1) = upperFlags word (flagsPerWord - 0) := by
        rw [flagsOf_eq_upperFlags, Nat.sub_zero]
        refine upperFlags_congr fun i hi => ?_
        rw [hbits, decide_eq_false (by omega), Bool.or_false]
      rw [hfirst] at hrun
      refine ⟨padding, ?_⟩
      rw [flagWordsAfter, ← hold, List.append_assoc]
      exact .more (by rw [hbits, decide_eq_true rfl, Bool.or_true]) hrun
  | p :: present, word, free + 1, hfree, hclear => by
      have hnext : ∀ i ≤ free, (word ||| flagBit (free + 1) p).toNat.testBit i = false := by
        intro i hi
        rw [UInt16.toNat_or, Nat.testBit_or, hclear i (Nat.le_succ_of_le hi),
          testBit_flagBit (by rw [flagsPerWord] at hfree; omega), decide_eq_false (by omega),
          Bool.and_false, Bool.or_false]
      obtain ⟨padding, hrun⟩ := flagRun_flagWordsAfter present (Nat.le_of_succ_le hfree) hnext
      rw [upperFlags_or_flagBit hfree (hclear (free + 1) le_rfl), List.append_assoc,
        List.append_assoc] at hrun
      refine ⟨padding, ?_⟩
      rw [flagWordsAfter, List.append_assoc]
      exact hrun

/-- **The flag words of presences** tell them and nothing else. -/
theorem flagRun_flagWords (present : List Bool) :
    ∃ padding, FlagRun (flagWords present) (present ++ List.replicate padding false) :=
  flagRun_flagWordsAfter present le_rfl fun i _ => by rw [UInt16.toNat_zero, Nat.zero_testBit]

/-- The octets of flag words. -/
def flagOctets (words : List UInt16) : Octets :=
  words.flatMap fun word => Octets.bigEndian 2 word.toNat

/-- Every flag word takes two octets. -/
@[simp] theorem length_flagOctets : ∀ words : List UInt16,
    (flagOctets words).length = 2 * words.length
  | [] => rfl
  | word :: words => by
      rw [flagOctets, List.flatMap_cons, ← flagOctets]
      simp only [List.length_append, Octets.length_bigEndian, length_flagOctets words,
        List.length_cons]
      omega

/-- The octets at hand allow for as many flag words as they start with. -/
theorem length_le_room (words : List UInt16) (octets : Octets) :
    words.length ≤ (flagOctets words ++ octets).length + 1 := by
  rw [List.length_append, length_flagOctets]
  omega

/-- A word without a successor has its lowest bit clear. -/
theorem word_and_one_eq_zero_iff {word : UInt16} :
    word &&& 1 = 0 ↔ word.toNat.testBit 0 = false := by
  rw [← word_and_mask (i := 0) (by decide), bne_eq_false_iff_eq]
  rfl

/-- **A run of flag words is read** as the presences it tells. -/
theorem FlagRun.reads {words : List UInt16} {flags : List Bool} (h : FlagRun words flags) :
    ∀ {budget : Nat}, words.length ≤ budget →
      Reads (readFlags budget) (flagOctets words) flags := by
  induction h with
  | @last word h =>
    intro budget hbudget
    obtain ⟨budget, rfl⟩ : ∃ n, budget = n + 1 := Nat.exists_eq_succ_of_ne_zero (by
      rw [List.length_singleton] at hbudget
      omega)
    rw [readFlags, flagOctets, List.flatMap_singleton]
    refine (reads_readShort word).map ?_
    rw [if_pos (word_and_one_eq_zero_iff.2 h)]
    exact .pure _
  | @more word words flags h _ ih =>
    intro budget hbudget
    rw [List.length_cons] at hbudget
    obtain ⟨budget, rfl⟩ : ∃ n, budget = n + 1 := Nat.exists_eq_succ_of_ne_zero (by omega)
    have hrest := ih (Nat.le_of_succ_le_succ hbudget)
    rw [readFlags, flagOctets, List.flatMap_cons, ← flagOctets]
    refine (reads_readShort word).bind ?_
    rw [if_neg fun hword => by rw [word_and_one_eq_zero_iff.1 hword] at h; cases h]
    exact hrest.map (.pure _)

/-! ## Present values -/

theorem writeValues_cons_eq_complete_iff {value : Value} {values : List Value} {octets : Octets} :
    writeValues (value :: values) = .complete octets ↔
      ∃ v t, value.encode = .ok v ∧ writeValues values = .complete t ∧ v ++ t = octets := by
  rw [writeValues]
  exact Written.encoded_eq_complete_iff (f := id)

/-- Each present value is of its kind. -/
abbrev PresentOfKinds (kinds : List Primitive) (values : List (Option Value)) : Prop :=
  List.Forall₂ (fun kind value => ∀ v ∈ value, v.primitive = kind) kinds values

/-- Where a present value stands beside a kind that is asked for, it is of that kind, and its tables
are not too deep. -/
def Answers (kinds : List Primitive) (values : List (Option Value)) : Prop :=
  ∀ p ∈ kinds.zip values, ∀ v ∈ p.2, v.primitive = p.1 ∧ v.tableDepth ≤ maxTableDepth

theorem answers_cons_cons {kind : Primitive} {kinds : List Primitive} {value : Option Value}
    {values : List (Option Value)} : Answers (kind :: kinds) (value :: values) ↔
      (∀ v ∈ value, v.primitive = kind ∧ v.tableDepth ≤ maxTableDepth) ∧ Answers kinds values :=
  List.forall_mem_cons

/-- Kinds beyond the flags that tell of a presence are those of absent values. -/
theorem reads_readPresent_replicate : ∀ (kinds : List Primitive) (padding : Nat),
    Reads (readPresent (List.replicate padding false) kinds) [] (List.replicate kinds.length none)
  | [], _ => .pure []
  | _ :: kinds, 0 => (reads_readPresent_replicate kinds 0).map (.pure _)
  | _ :: kinds, padding + 1 => (reads_readPresent_replicate kinds padding).map (.pure _)

/-- **Present values are read at their places**, as far as kinds are asked for.  Where they are
asked for further, the values behind are absent; where not, the octets behind are left. -/
theorem reads_readPresent (padding : Nat) : ∀ {kinds : List Primitive}
    {values : List (Option Value)} {octets : Octets}, Answers kinds values →
      writeValues (values.filterMap id) = .complete octets → ∃ s t, s ++ t = octets ∧
        (values.length ≤ kinds.length → t = []) ∧
        Reads (readPresent (values.map Option.isSome ++ List.replicate padding false) kinds) s
          (values.takeD kinds.length none)
  | kinds, [], octets, _, h => by
      obtain rfl : [] = octets := (Written.mk.inj h).1
      refine ⟨[], [], rfl, fun _ => rfl, ?_⟩
      rw [List.takeD_nil]
      exact reads_readPresent_replicate kinds padding
  | [], value :: values, octets, _, _ => by
      refine ⟨[], octets, rfl, fun hlength => absurd hlength (Nat.not_succ_le_zero _), ?_⟩
      rw [readPresent]
      exact .pure []
  | kind :: kinds, none :: values, octets, hkinds, h => by
      obtain ⟨s, t, hoctets, ht, hrest⟩ := reads_readPresent padding
        (answers_cons_cons.1 hkinds).2 h
      exact ⟨s, t, hoctets, fun hlength => ht (Nat.le_of_succ_le_succ hlength),
        hrest.map (.pure _)⟩
  | kind :: kinds, some v :: values, octets, hkinds, h => by
      obtain ⟨hv, htail⟩ := answers_cons_cons.1 hkinds
      obtain ⟨rfl, hdepth⟩ := hv v rfl
      obtain ⟨octets, body, hvalue, hbody, rfl⟩ := writeValues_cons_eq_complete_iff.1 h
      obtain ⟨s, t, rfl, ht, hrest⟩ := reads_readPresent padding htail hbody
      refine ⟨octets ++ s, t, List.append_assoc .., fun hlength =>
        ht (Nat.le_of_succ_le_succ hlength), ?_⟩
      exact (v.reads_encode hvalue hdepth).bind (hrest.map (.pure _))

/-! ## The whole list -/

/-- The octets of an optional field list are those of its flag words, and then those of its present
values. -/
theorem writeOptionalFields_eq_complete_iff {values : List (Option Value)} {octets : Octets} :
    writeOptionalFields values = .complete octets ↔
      ∃ body, writeValues (values.filterMap id) = .complete body ∧
        flagOctets (flagWords (values.map Option.isSome)) ++ body = octets :=
  Written.after_eq_complete_iff

/-- Behind a run of flag words the values are read that it tells of. -/
theorem FlagRun.reads_values {words : List UInt16} {flags : List Bool} (hrun : FlagRun words flags)
    {kinds : List Primitive} {values : List (Option Value)} {octets : Octets}
    (hread : Reads (readPresent flags kinds) octets values) :
    Reads (readOptionalFields kinds) (flagOctets words ++ octets) values := by
  intro position rest
  have hbudget := length_le_room words (octets ++ rest)
  rw [← List.append_assoc] at hbudget
  rw [readOptionalFields, get_bind]
  exact ((hrun.reads hbudget).bind hread) position rest

/-- **An optional field list is read back as far as kinds are asked for.** -/
theorem reads_readOptionalFields {kinds : List Primitive} {values : List (Option Value)}
    {octets : Octets} (hkinds : Answers kinds values)
    (h : writeOptionalFields values = .complete octets) : ∃ s t, s ++ t = octets ∧
      (values.length ≤ kinds.length → t = []) ∧
      Reads (readOptionalFields kinds) s (values.takeD kinds.length none) := by
  obtain ⟨body, hbody, rfl⟩ := writeOptionalFields_eq_complete_iff.1 h
  obtain ⟨padding, hrun⟩ := flagRun_flagWords (values.map Option.isSome)
  obtain ⟨s, t, rfl, ht, hread⟩ := reads_readPresent padding hkinds hbody
  exact ⟨_ ++ s, t, List.append_assoc .., ht, hrun.reads_values hread⟩

/-- **An optional field list is read back**, what is absent as absent. -/
theorem reads_writeOptionalFields {kinds : List Primitive} {values : List (Option Value)}
    {octets : Octets} (hkinds : PresentOfKinds kinds values)
    (hdepth : ∀ value ∈ values, ∀ v ∈ value, v.tableDepth ≤ maxTableDepth)
    (h : writeOptionalFields values = .complete octets) :
    Reads (readOptionalFields kinds) octets values := by
  obtain ⟨hlength, hpairs⟩ := List.forall₂_iff_zip.1 hkinds
  have hanswers : Answers kinds values := fun p hp v hv =>
    ⟨hpairs hp v hv, hdepth p.2 (List.of_mem_zip hp).2 v hv⟩
  obtain ⟨s, t, rfl, ht, hread⟩ := reads_readOptionalFields hanswers h
  rw [hlength, List.takeD_eq_take none le_rfl, List.take_length] at hread
  rwa [ht hlength.ge, List.append_nil]

end FrameSchema.Wire
