import FrameSchema.Proofs.Wire.FieldListCut
import FrameSchema.Proofs.Wire.PackedBits
import FrameSchema.Proofs.Wire.SelfDelimiting
import Mathlib.Data.List.SplitBy
import Mathlib.Data.Set.List

/-!
# Proofs/Wire/BitRuns — a field list is the row of its runs

A list of fields is cut into its longest runs of bits and the single fields between them (`runs`).
Writer and reader go through it with an octet of bits in hand, but at the border of two runs at
least one field is no bit, and there both start afresh (`writeFields_append`, `readFields_append`).
So what they make of a list is what they make of its runs (`FallsApart.iff_runs`): bits are packed
with the bits of their own run only, and every other field stands as it does alone
(`fieldLists_by_runs`).
-/

namespace FrameSchema.Wire

/-! ## Runs -/

/-- Neighbours that are packed together: both are bits. -/
def packs (p q : Primitive) : Bool := p == .bit && q == .bit

theorem packs_eq_true_iff {p q : Primitive} : packs p q = true ↔ p = .bit ∧ q = .bit := by
  rw [packs, Bool.and_eq_true_iff, beq_iff_eq, beq_iff_eq]

section Runs

variable {α β : Type} {kind : α → Primitive}

/-- **A run consists of bits, or of a single field that is none.** -/
theorem run_cases {run : List α} (hne : run ≠ [])
    (h : run.IsChain fun a b => packs (kind a) (kind b)) :
    (∀ a ∈ run, kind a = .bit) ∨ ∃ a, run = [a] ∧ kind a ≠ .bit := by
  induction run with
  | nil => exact absurd rfl hne
  | cons a run ih =>
    cases run with
    | nil =>
      by_cases ha : kind a = .bit
      · exact .inl (by simpa using ha)
      · exact .inr ⟨a, rfl, ha⟩
    | cons b run =>
      rw [List.isChain_cons_cons] at h
      obtain ⟨ha, hb⟩ := packs_eq_true_iff.1 h.1
      rcases ih (List.cons_ne_nil b run) h.2 with hall | ⟨c, hc, hnot⟩
      · exact .inl (List.forall_mem_cons.2 ⟨ha, hall⟩)
      · obtain ⟨rfl, -⟩ := List.cons.inj hc
        exact absurd hb hnot

/-- The fields on both sides of a border are not packed together. -/
def Border (kind : α → Primitive) (front back : List α) : Prop :=
  ∀ a ∈ front.getLast?, ∀ b ∈ back.head?, packs (kind a) (kind b) = false

/-- In front of a bit that a border parts off stands no bit. -/
theorem Border.ne_bit {front back : List α} {a b : α} (h : Border kind (front ++ [a]) (b :: back))
    (hb : kind b = .bit) : kind a ≠ .bit := by
  intro ha
  have hborder := h a List.getLast?_concat b rfl
  rw [packs_eq_true_iff.2 ⟨ha, hb⟩] at hborder
  cases hborder

/-- Runs in a row: none is empty, and no two neighbours are packed together. -/
abbrev RunRow (kind : α → Primitive) (runs : List (List α)) : Prop :=
  runs.IsChain fun run next => ∃ (h : run ≠ []) (h' : next ≠ []),
    packs (kind (run.getLast h)) (kind (next.head h')) = false

/-- A run in a row meets those behind it at a border. -/
theorem RunRow.border {run : List α} {runs : List (List α)} (h : RunRow kind (run :: runs)) :
    Border kind run runs.flatten := by
  intro a ha b hb
  cases runs with
  | nil => cases hb
  | cons next runs =>
    obtain ⟨⟨hrun, hnext, hborder⟩, -⟩ := List.isChain_cons_cons.1 h
    rw [List.flatten_cons, List.head?_append_of_ne_nil _ hnext, List.head?_eq_some_head hnext] at hb
    rw [List.getLast?_eq_some_getLast hrun] at ha
    obtain rfl := Option.some.inj ha
    obtain rfl := Option.some.inj hb
    exact hborder

/-- Something that is made of lists falls apart at the border of two runs, into what is made of
both sides; `whole` joins the parts. -/
structure FallsApart (kind : α → Primitive) (made : List α → β → Prop) (join : β → β → β)
    (whole : List β → β) : Prop where
  whole_cons : ∀ part parts, whole (part :: parts) = join part (whole parts)
  nil : ∀ b, made [] b ↔ whole [] = b
  append : ∀ {front back}, Border kind front back → ∀ b,
    made (front ++ back) b ↔ ∃ s t, made front s ∧ made back t ∧ join s t = b

variable {made : List α → β → Prop} {join : β → β → β} {whole : List β → β}

/-- What is made of runs in a row is made of each of them. -/
theorem FallsApart.flatten_iff (h : FallsApart kind made join whole) {runs : List (List α)}
    (hrow : RunRow kind runs) (b : β) :
    made runs.flatten b ↔ ∃ parts, List.Forall₂ made runs parts ∧ whole parts = b := by
  induction runs generalizing b with
  | nil => simp [h.nil]
  | cons run runs ih =>
    rw [List.flatten_cons, h.append hrow.border]
    simp only [ih hrow.tail, List.forall₂_cons_left_iff]
    constructor
    · rintro ⟨s, t, hs, ⟨parts, hparts, rfl⟩, rfl⟩
      exact ⟨s :: parts, ⟨s, parts, hs, hparts, rfl⟩, h.whole_cons s parts⟩
    · rintro ⟨_, ⟨s, parts, hs, hparts, rfl⟩, rfl⟩
      exact ⟨s, _, hs, ⟨parts, hparts, rfl⟩, (h.whole_cons s parts).symm⟩

/-- The longest runs of bits in a list, and the single fields between them. -/
def runs (kind : α → Primitive) (as : List α) : List (List α) :=
  as.splitBy fun a b => packs (kind a) (kind b)

/-- A list is cut into its longest runs of bits and the single fields between them: no two runs of
bits stand next to each other. -/
structure LongestRuns (kind : α → Primitive) (as : List α) (runs : List (List α)) : Prop where
  flatten : runs.flatten = as
  uniform : ∀ run ∈ runs, (run ≠ [] ∧ ∀ a ∈ run, kind a = .bit) ∨
    ∃ a, run = [a] ∧ kind a ≠ .bit
  row : RunRow kind runs

theorem longestRuns_runs (kind : α → Primitive) (as : List α) :
    LongestRuns kind as (runs kind as) where
  flatten := List.flatten_splitBy _ as
  uniform := by
    intro run hrun
    have hne := List.ne_nil_of_mem_splitBy hrun
    exact (run_cases hne (List.isChain_of_mem_splitBy hrun)).imp_left fun hbits => ⟨hne, hbits⟩
  row := List.isChain_getLast_head_splitBy (fun a b => packs (kind a) (kind b)) as

/-- **What falls apart at borders is made of the runs of a list.** -/
theorem FallsApart.iff_runs (h : FallsApart kind made join whole) (as : List α) (b : β) :
    made as b ↔ ∃ parts, List.Forall₂ made (runs kind as) parts ∧ whole parts = b := by
  have hruns := longestRuns_runs kind as
  rw [← h.flatten_iff hruns.row, hruns.flatten]

end Runs

/-! ## Writing -/

namespace Written

@[simp] theorem andThen_complete_nil (w : Written) : w.andThen (complete []) = w := by
  obtain ⟨octets, fault⟩ := w
  cases fault with
  | none => exact congrArg (mk · none) (List.append_nil octets)
  | some fault => rfl

@[simp] theorem andThen_assoc (u v w : Written) :
    (u.andThen v).andThen w = u.andThen (v.andThen w) := by
  obtain ⟨octets, fault⟩ := u
  cases fault with
  | none => exact after_andThen octets v w
  | some fault => rfl

end Written

/-- Behind a field that is no bit the writer starts afresh. -/
theorem writeFields_cons {value : Value} (h : value.primitive ≠ .bit) (back : List Value) :
    writeFields (value :: back) = (writeFields [value]).andThen (writeFields back) := by
  rw [writeFields, writeFields, writeFieldsAfter_cons h, writeFieldsAfter_cons h]
  cases value.encode with
  | error fault => rfl
  | ok octets => simp [writeFieldsAfter, writeFields]

/-- **The writer starts afresh at the border of two runs.** -/
theorem writeFields_append {front back : List Value} (h : Border Value.primitive front back) :
    writeFields (front ++ back) = (writeFields front).andThen (writeFields back) := by
  cases back with
  | nil => simp [writeFields, writeFieldsAfter]
  | cons w back =>
    by_cases hw : w.primitive = .bit
    · -- The field in front of the border is no bit, so the list is cut there, and again behind it.
      rcases front.eq_nil_or_concat' with rfl | ⟨front, v, rfl⟩
      · rfl
      · have hv : v.primitive ≠ .bit := h.ne_bit hw
        have hcut := writeFieldsAfter_append_cons hv [] front .none
        rw [List.append_assoc, List.singleton_append, writeFields, writeFieldsAfter_append_cons hv,
          writeFields_cons hv, ← Written.andThen_assoc, ← hcut]
        rfl
    · exact writeFieldsAfter_append_cons hw back front .none

/-- What a run of values is written as: its bits packed, or what its one field is written as
alone. -/
inductive RunWritten : List Value → Octets → Prop where
  | bits {bits : List Bool} {octets : Octets} (h : Packed bits octets) :
      RunWritten (bits.map .bit) octets
  | field {value : Value} {octets : Octets} (hkind : value.primitive ≠ .bit)
      (h : writeFields [value] = .complete octets) : RunWritten [value] octets

/-- The runs of a list of values are written each in its own way. -/
theorem writeFields_run_iff {values run : List Value} (h : run ∈ runs Value.primitive values)
    (octets : Octets) : writeFields run = .complete octets ↔ RunWritten run octets := by
  constructor
  · intro hwrite
    rcases (longestRuns_runs _ _).uniform run h with ⟨-, hbits⟩ | ⟨v, rfl, hv⟩
    · obtain ⟨bits, rfl⟩ : ∃ bits : List Bool, bits.map .bit = run := by
        refine (Set.ext_iff.1 (Set.range_list_map Value.bit) run).2 fun v hv => ?_
        obtain ⟨b, rfl⟩ := v.exists_eq_bit (hbits v hv)
        exact ⟨b, rfl⟩
      exact .bits (writeFields_bits_eq_complete_iff.1 hwrite)
    · exact .field hv hwrite
  · rintro (hpacked | ⟨-, hwrite⟩)
    · exact writeFields_bits_eq_complete_iff.2 hpacked
    · exact hwrite

/-! ## Reading -/

/-- Behind a field that is no bit the reader starts afresh. -/
theorem readFields_cons {kind : Primitive} (h : kind ≠ .bit) (back : List Primitive) :
    readFields (kind :: back) = (do
      let first ← readFields [kind]
      let next ← readFields back
      return first ++ next) := by
  rw [readFields, readFields, readFieldsAfter_cons h, readFieldsAfter_cons h]
  simp [readFieldsAfter, readFields]

/-- **The reader starts afresh at the border of two runs.** -/
theorem readFields_append {front back : List Primitive} (h : Border id front back) :
    readFields (front ++ back) = (do
      let first ← readFields front
      let next ← readFields back
      return first ++ next) := by
  cases back with
  | nil => simp [readFields, readFieldsAfter]
  | cons next back =>
    by_cases hnext : next = .bit
    · rcases front.eq_nil_or_concat' with rfl | ⟨front, kind, rfl⟩
      · simp [readFields, readFieldsAfter]
      · have hkind : kind ≠ .bit := h.ne_bit hnext
        have hcut : readFields (front ++ [kind]) = _ :=
          readFieldsAfter_append_cons hkind [] front .none
        rw [List.append_assoc, List.singleton_append, readFields, readFieldsAfter_append_cons hkind,
          readFields_cons hkind, hcut]
        simp only [bind_assoc, pure_bind, List.append_assoc, readFields]
    · exact readFieldsAfter_append_cons hnext back front .none

/-- **A list of kinds reads what its two sides read**, one behind the other, if they meet at a
border of two runs. -/
theorem reads_append_iff {front back : List Primitive} (h : Border id front back)
    (part : Octets × List Value) : Reads (readFields (front ++ back)) part.1 part.2 ↔
      ∃ s t : Octets × List Value, Reads (readFields front) s.1 s.2 ∧
        Reads (readFields back) t.1 t.2 ∧ (s.1 ++ t.1, s.2 ++ t.2) = part := by
  rw [readFields_append h, (selfDelimiting_readFields front).reads_bind_iff fun first =>
    (selfDelimiting_readFields back).map fun next => first ++ next]
  constructor
  · rintro ⟨s, t, first, hfirst, hback, hoctets⟩
    obtain ⟨next, hnext, hvalues⟩ := (selfDelimiting_readFields back).reads_map_iff.1 hback
    exact ⟨(s, first), (t, next), hfirst, hnext, Prod.ext hoctets hvalues⟩
  · rintro ⟨⟨s, first⟩, ⟨t, next⟩, hfirst, hnext, rfl⟩
    exact ⟨s, t, first, hfirst, hnext.map (.pure _), rfl⟩

/-- What a run of kinds reads, and the octets it takes: bits that these carry, or what its one field
reads alone. -/
inductive RunRead : List Primitive → Octets × List Value → Prop where
  | bits {bits : List Bool} {octets : Octets} (h : Carries bits octets) :
      RunRead (List.replicate bits.length .bit) (octets, bits.map .bit)
  | field {kind : Primitive} {octets : Octets} {values : List Value} (hkind : kind ≠ .bit)
      (h : Reads (readFields [kind]) octets values) : RunRead [kind] (octets, values)

/-- The runs of a list of kinds are read each in its own way. -/
theorem readFields_run_iff {kinds run : List Primitive} (h : run ∈ runs id kinds)
    (part : Octets × List Value) :
    Reads (readFields run) part.1 part.2 ↔ RunRead run part := by
  constructor
  · intro hread
    rcases (longestRuns_runs _ _).uniform run h with ⟨-, hbits⟩ | ⟨kind, rfl, hkind⟩
    · rw [List.eq_replicate_of_mem hbits] at hread ⊢
      obtain ⟨octets, values⟩ := part
      obtain ⟨bits, hlength, hcarries, rfl⟩ := reads_bits_iff.1 hread
      rw [← hlength]
      exact .bits hcarries
    · exact .field hkind hread
  · rintro (hcarries | ⟨hkind, hread⟩)
    · exact reads_bits_iff.2 ⟨_, rfl, hcarries, rfl⟩
    · exact hread

/-! ## Whole lists -/

/-- **A list of values is written as its runs are.** -/
theorem writeFields_iff_runs (values : List Value) (octets : Octets) :
    writeFields values = .complete octets ↔
      ∃ parts, List.Forall₂ RunWritten (runs Value.primitive values) parts ∧
        parts.flatten = octets := by
  have happart : FallsApart Value.primitive
      (fun values octets => writeFields values = .complete octets) (· ++ ·) List.flatten := by
    refine ⟨fun _ _ => rfl, fun octets => ?_, fun h octets => ?_⟩
    · exact ⟨fun hnil => (Written.mk.inj hnil).1, fun hnil => congrArg _ hnil⟩
    · rw [writeFields_append h, Written.andThen_eq_complete_iff]
  refine (happart.iff_runs values octets).trans (exists_congr fun parts => and_congr_left' ?_)
  exact forall₂_congr_left fun run hrun => writeFields_run_iff hrun

/-- **A list of kinds is read as its runs are.** -/
theorem reads_iff_runs (kinds : List Primitive) (octets : Octets) (values : List Value) :
    Reads (readFields kinds) octets values ↔
      ∃ parts, List.Forall₂ RunRead (runs id kinds) parts ∧
        parts.flatMap Prod.fst = octets ∧ parts.flatMap Prod.snd = values := by
  have happart : FallsApart id
      (fun kinds (part : Octets × List Value) => Reads (readFields kinds) part.1 part.2)
      (fun s t => (s.1 ++ t.1, s.2 ++ t.2))
      (fun parts => (parts.flatMap Prod.fst, parts.flatMap Prod.snd)) :=
    ⟨fun _ _ => rfl, fun _ => reads_pure_iff.trans Prod.mk_inj.symm, reads_append_iff⟩
  refine (happart.iff_runs kinds (octets, values)).trans (exists_congr fun parts => ?_)
  rw [Prod.mk_inj, forall₂_congr_left fun run hrun => readFields_run_iff hrun]

/-- **Field lists are written and read run by run.**  A list is cut into its longest runs of bits
and the single fields between them.  It is written as its runs are, one behind the other, and read
as its runs are: a run of bits as the octets that it is packed into, and from any octets that carry
it; every other field alone. -/
theorem fieldLists_by_runs :
    (∀ {α : Type} (kind : α → Primitive) (as : List α), LongestRuns kind as (runs kind as)) ∧
    (∀ (values : List Value) (octets : Octets), writeFields values = .complete octets ↔
      ∃ parts, List.Forall₂ RunWritten (runs Value.primitive values) parts ∧
        parts.flatten = octets) ∧
    ∀ (kinds : List Primitive) (position : Nat) (input : Octets) (values : List Value) (r : Reader),
      readFields kinds ⟨position, input⟩ = .ok values r ↔
        ∃ parts rest, List.Forall₂ RunRead (runs id kinds) parts ∧
          parts.flatMap Prod.snd = values ∧ parts.flatMap Prod.fst ++ rest = input ∧
          ⟨position + (parts.flatMap Prod.fst).length, rest⟩ = r := by
  refine ⟨longestRuns_runs, writeFields_iff_runs, ?_⟩
  intro kinds position input values r
  simp only [(selfDelimiting_readFields kinds).ok_iff, reads_iff_runs]
  constructor
  · rintro ⟨_, rest, ⟨parts, hparts, rfl, hvalues⟩, hinput, hr⟩
    exact ⟨parts, rest, hparts, hvalues, hinput, hr⟩
  · rintro ⟨parts, rest, hparts, hvalues, hinput, hr⟩
    exact ⟨_, rest, ⟨parts, hparts, rfl, hvalues⟩, hinput, hr⟩

/-- Nine bits take two octets, and the one behind the number a third. -/
example : writeFields (List.replicate 9 (.bit true) ++ [.octet 7, .bit true])
    = .complete [255, 1, 7, 1] := by decide

end FrameSchema.Wire
