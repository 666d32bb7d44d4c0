import Mathlib.Data.List.Nodup

/-!
# Proofs/Distinct — distinct names, and members found by them

A check that walks a list with what it has seen so far asks whether the list is `Fresh`: without
repetition, and disjoint from what was there before.  Where the keys of the members of a list are
distinct, a member is the only one of its key and is found by it (`find?_of_nodup_map`); members may
also be sorted by their keys without losing one (`flatMap_filter_perm`).
-/

namespace FrameSchema

variable {α β : Type}

/-! ## Fresh names -/

/-- The new names do not repeat, and none was taken before. -/
structure Fresh (taken new : List α) : Prop where
  nodup : new.Nodup
  disjoint : ∀ a ∈ new, a ∉ taken

@[simp] theorem fresh_nil {taken : List α} : Fresh taken [] :=
  ⟨List.nodup_nil, fun _ ha => absurd ha List.not_mem_nil⟩

/-- **Names are fresh one after another**, each one being taken for those behind it. -/
@[simp] theorem fresh_cons_iff {taken new : List α} {a : α} :
    Fresh taken (a :: new) ↔ a ∉ taken ∧ Fresh (a :: taken) new := by
  constructor
  · rintro ⟨hnodup, hdisjoint⟩
    obtain ⟨ha, hnew⟩ := List.nodup_cons.1 hnodup
    refine ⟨hdisjoint a List.mem_cons_self, hnew, fun b hb hmem => ?_⟩
    rcases List.mem_cons.1 hmem with rfl | hmem
    · exact ha hb
    · exact hdisjoint b (List.mem_cons_of_mem _ hb) hmem
  · rintro ⟨ha, hnodup, hdisjoint⟩
    refine ⟨List.nodup_cons.2 ⟨fun hmem => hdisjoint a hmem List.mem_cons_self, hnodup⟩,
      fun b hb => ?_⟩
    rcases List.mem_cons.1 hb with rfl | hb
    · exact ha
    · exact fun hmem => hdisjoint b hb (List.mem_cons_of_mem _ hmem)

/-- Two rows of names are fresh if the second is once the first was taken. -/
@[simp] theorem fresh_append_iff {new' : List α} : ∀ {taken new : List α},
    Fresh taken (new ++ new') ↔ Fresh taken new ∧ Fresh (new.reverse ++ taken) new'
  | taken, [] => (and_iff_right fresh_nil).symm
  | taken, a :: new => by
      rw [List.cons_append, fresh_cons_iff, fresh_append_iff, fresh_cons_iff, List.reverse_cons,
        List.append_assoc, List.singleton_append, and_assoc]

/-- Behind names without repetition, fresh ones make a longer row of that sort. -/
theorem fresh_iff_nodup_append {taken new : List α} (h : taken.Nodup) :
    Fresh taken new ↔ (taken ++ new).Nodup := by
  rw [List.nodup_append']
  exact ⟨fun hf => ⟨h, hf.nodup, fun a ha ha' => hf.disjoint a ha' ha⟩,
    fun ⟨_, hnew, hdisjoint⟩ => ⟨hnew, fun a ha ha' => hdisjoint ha' ha⟩⟩

@[simp] theorem fresh_nil_iff {new : List α} : Fresh [] new ↔ new.Nodup :=
  fresh_iff_nodup_append List.nodup_nil

/-! ## Members found by their keys -/

section Keys

variable [BEq β] [LawfulBEq β] {a : α}

/-- **Among members with distinct keys each is the only one of its key**, whatever other members
have none. -/
theorem filter_of_nodup_filterMap {f : α → Option β} {key : β} (hkey : f a = some key) :
    ∀ {l : List α}, (l.filterMap f).Nodup → a ∈ l → (l.filter fun b => f b == some key) = [a]
  | b :: l, hnodup, ha => by
      have hmem (hl : a ∈ l) : key ∈ l.filterMap f := List.mem_filterMap.2 ⟨a, hl, hkey⟩
      rcases List.mem_cons.1 ha with rfl | ha
      · rw [List.filterMap_cons_some hkey, List.nodup_cons] at hnodup
        have hrest : (l.filter fun b => f b == some key) = [] := List.filter_eq_nil_iff.2
          fun b hb hbkey => hnodup.1 (List.mem_filterMap.2 ⟨b, hb, eq_of_beq hbkey⟩)
        rw [List.filter_cons, if_pos (beq_iff_eq.2 hkey), hrest]
      · have hne : (f b == some key) = false := beq_false_of_ne fun hb => by
          rw [List.filterMap_cons_some hb, List.nodup_cons] at hnodup
          exact hnodup.1 (hmem ha)
        have hrest : (l.filterMap f).Nodup :=
          hnodup.sublist ((List.sublist_cons_self b l).filterMap f)
        rw [List.filter_cons, hne, filter_of_nodup_filterMap hkey hrest ha]
        rfl

variable {f : α → β}

/-- Where every member has a key, each is the only one of its own. -/
theorem filter_of_nodup_map {l : List α} (hnodup : (l.map f).Nodup) (ha : a ∈ l) :
    (l.filter fun b => f b == f a) = [a] := by
  have hfilter := filter_of_nodup_filterMap (f := fun b => some (f b)) rfl
    (by rwa [List.filterMap_eq_map']) ha
  simpa using hfilter

/-- **Among members with distinct keys each is found by its key.** -/
theorem find?_of_nodup_map {l : List α} (hnodup : (l.map f).Nodup) (ha : a ∈ l) :
    (l.find? fun b => f b == f a) = some a := by
  rw [← List.head?_filter, filter_of_nodup_map hnodup ha, List.head?_cons]

/-- A key leads to the member that has it, and to no other. -/
theorem find?_eq_some_iff_of_nodup_map {l : List α} (hnodup : (l.map f).Nodup) {key : β} :
    (l.find? fun b => f b == key) = some a ↔ a ∈ l ∧ f a = key := by
  constructor
  · intro h
    have hkey := List.find?_some (p := fun b => f b == key) h
    exact ⟨List.mem_of_find?_eq_some h, eq_of_beq hkey⟩
  · rintro ⟨ha, rfl⟩
    exact find?_of_nodup_map hnodup ha

/-- **Members sorted by a key**, key after key, are the members. -/
theorem flatMap_filter_perm {keys : List β} {l : List α} (hkeys : keys.Nodup)
    (hl : ∀ a ∈ l, f a ∈ keys) : (keys.flatMap fun k => l.filter (f · == k)).Perm l := by
  induction keys generalizing l with
  | nil =>
    rw [List.eq_nil_iff_forall_not_mem.2 fun a ha => List.not_mem_nil (hl a ha)]
    rfl
  | cons k keys ih =>
    obtain ⟨hk, hkeys⟩ := List.nodup_cons.1 hkeys
    -- The members of the other keys are those that are left without the first one's.
    have hrest : (keys.flatMap fun k' => l.filter (f · == k')) =
        keys.flatMap fun k' => (l.filter fun a => !(f a == k)).filter (f · == k') := by
      refine List.flatMap_congr fun k' hk' => ?_
      rw [List.filter_filter]
      refine List.filter_congr fun a _ => ?_
      by_cases ha : f a = k'
      · have hne : f a ≠ k := fun heq => hk (heq ▸ ha ▸ hk')
        simp [ha, ha ▸ hne]
      · simp [ha]
    rw [List.flatMap_cons, hrest]
    refine ((ih hkeys fun a ha => ?_).append_left _).trans (List.filter_append_perm _ l)
    obtain ⟨hmem, hne⟩ := List.mem_filter.1 ha
    refine (List.mem_cons.1 (hl a hmem)).resolve_left fun heq => ?_
    simp [heq] at hne

end Keys

end FrameSchema
