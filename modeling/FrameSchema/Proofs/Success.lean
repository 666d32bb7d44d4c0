import Mathlib.Data.List.Forall2

/-!
# Proofs/Success — what the steps of a computation gave if all of it succeeded

A sequence succeeds exactly if each of its steps does; `bind_eq_ok_iff` takes it apart, and
`mapM_eq_ok_iff` does so for one step a member of a list.  If a step of a member fails, the first
one that does is the fault of the walk (`mapM_eq_error_iff`).
-/

namespace FrameSchema

variable {ε ε' α β : Type}

/-- A sequence succeeds exactly if its first step does and the second does on its result. -/
theorem bind_eq_ok_iff {x : Except ε α} {f : α → Except ε β} {b : β} :
    (x >>= f) = .ok b ↔ ∃ a, x = .ok a ∧ f a = .ok b := by
  cases x with
  | error e => exact ⟨fun h => (nomatch h), fun ⟨_, h, _⟩ => (nomatch h)⟩
  | ok a => exact ⟨fun h => ⟨a, rfl, h⟩, fun ⟨_, ha, h⟩ => Except.ok.inj ha ▸ h⟩

/-- A step that only succeeds or fails. -/
theorem bind_unit_eq_ok_iff {x : Except ε Unit} {f : Unit → Except ε β} {b : β} :
    (x >>= f) = .ok b ↔ x = .ok () ∧ f () = .ok b :=
  bind_eq_ok_iff.trans ⟨fun ⟨_, hx, hf⟩ => ⟨hx, hf⟩, fun ⟨hx, hf⟩ => ⟨(), hx, hf⟩⟩

/-- A step that cannot fail leaves success to the one before it. -/
theorem map_eq_ok_iff {x : Except ε α} {f : α → β} {b : β} :
    (f <$> x) = .ok b ↔ ∃ a, x = .ok a ∧ f a = b := by
  cases x with
  | error e => exact ⟨fun h => (nomatch h), fun ⟨_, h, _⟩ => (nomatch h)⟩
  | ok a => exact ⟨fun h => ⟨a, rfl, Except.ok.inj h⟩, fun ⟨_, ha, h⟩ => by cases ha; rw [← h]; rfl⟩

@[simp] theorem mapError_eq_ok_iff {x : Except ε α} {f : ε → ε'} {a : α} :
    x.mapError f = .ok a ↔ x = .ok a := by
  cases x with
  | error e => exact ⟨fun h => (nomatch h), fun h => (nomatch h)⟩
  | ok b => exact ⟨fun h => congrArg _ (Except.ok.inj h), fun h => congrArg _ (Except.ok.inj h)⟩

@[simp] theorem toOption_eq_some_iff {x : Except ε α} {a : α} :
    x.toOption = some a ↔ x = .ok a := by
  cases x with
  | error e => exact ⟨fun h => (nomatch h), fun h => (nomatch h)⟩
  | ok b => exact ⟨fun h => congrArg _ (Option.some.inj h), fun h => congrArg _ (Except.ok.inj h)⟩

/-- **A list is gone through exactly if each member gives its own result.** -/
theorem mapM_eq_ok_iff {f : α → Except ε β} : ∀ {as : List α} {bs : List β},
    as.mapM f = .ok bs ↔ List.Forall₂ (fun a b => f a = .ok b) as bs
  | [], bs => by
      rw [List.mapM_nil, List.forall₂_nil_left_iff]
      exact ⟨fun h => (Except.ok.inj h).symm, fun h => congrArg _ h.symm⟩
  | a :: as, bs => by
      rw [List.mapM_cons, bind_eq_ok_iff, List.forall₂_cons_left_iff]
      refine exists_congr fun b => ?_
      rw [bind_eq_ok_iff]
      constructor
      · rintro ⟨ha, bs', has, hbs⟩
        exact ⟨bs', ha, mapM_eq_ok_iff.1 has, (Except.ok.inj hbs).symm⟩
      · rintro ⟨bs', ha, has, rfl⟩
        exact ⟨ha, bs', mapM_eq_ok_iff.2 has, rfl⟩

/-- **A walk through a list stops at the first member that fails.** -/
theorem mapM_eq_error_iff {f : α → Except ε β} {as : List α} {e : ε} :
    as.mapM f = .error e ↔ ∃ front a back, as = front ++ a :: back ∧
      (∀ b ∈ front, ∃ c, f b = .ok c) ∧ f a = .error e := by
  constructor
  · intro h
    induction as with
    | nil => cases h
    | cons a as ih =>
      rw [List.mapM_cons] at h
      cases ha : f a with
      | error e' =>
        rw [ha] at h
        obtain rfl := Except.error.inj h
        exact ⟨[], a, as, rfl, by simp, ha⟩
      | ok c =>
        cases has : as.mapM f with
        | ok cs =>
          rw [ha, has] at h
          cases h
        | error e' =>
          rw [ha, has] at h
          obtain rfl := Except.error.inj h
          obtain ⟨front, b, back, rfl, hfront, hb⟩ := ih has
          exact ⟨a :: front, b, back, rfl, List.forall_mem_cons.2 ⟨⟨c, ha⟩, hfront⟩, hb⟩
  · rintro ⟨front, a, back, rfl, hfront, ha⟩
    induction front with
    | nil =>
      rw [List.nil_append, List.mapM_cons, ha]
      rfl
    | cons b front ih =>
      obtain ⟨⟨c, hb⟩, hfront⟩ := List.forall_mem_cons.1 hfront
      rw [List.cons_append, List.mapM_cons, hb, ih hfront]
      rfl

/-- Walks whose steps agree on the members of a list agree on the list. -/
theorem mapM_congr {m : Type → Type} [Monad m] [LawfulMonad m] {f g : α → m β} {as : List α}
    (h : ∀ a ∈ as, f a = g a) : as.mapM f = as.mapM g := by
  induction as with
  | nil => rfl
  | cons a as ih =>
    obtain ⟨ha, has⟩ := List.forall_mem_cons.1 h
    rw [List.mapM_cons, List.mapM_cons, ha, ih has]

/-- Steps that are known to succeed are a plain walk through the list. -/
theorem mapM_eq_pure_map {m : Type → Type} [Monad m] [LawfulMonad m] {f : α → m β} {g : α → β} :
    ∀ {as : List α}, (∀ a ∈ as, f a = pure (g a)) → as.mapM f = pure (as.map g)
  | [], _ => List.mapM_nil
  | a :: as, h => by
      rw [List.mapM_cons, h a List.mem_cons_self, pure_bind,
        mapM_eq_pure_map fun b hb => h b (List.mem_cons_of_mem a hb), pure_bind, List.map_cons]

/-- A list of checks passes exactly if each of them does. -/
theorem forM_eq_ok_iff {f : α → Except ε Unit} : ∀ {as : List α},
    as.forM f = .ok () ↔ ∀ a ∈ as, f a = .ok ()
  | [] => ⟨fun _ _ ha => absurd ha List.not_mem_nil, fun _ => rfl⟩
  | a :: as => by
      rw [List.forM_eq_forM, List.forM_cons, bind_unit_eq_ok_iff, List.forall_mem_cons,
        ← forM_eq_ok_iff, List.forM_eq_forM]

/-! ## Members side by side -/

theorem exists_mem_zip_left {as : List α} {bs : List β} (hlength : as.length = bs.length) {a : α}
    (ha : a ∈ as) : ∃ b, (a, b) ∈ as.zip bs := by
  rw [← List.map_fst_zip (Nat.le_of_eq hlength)] at ha
  obtain ⟨⟨_, b⟩, hmem, rfl⟩ := List.mem_map.1 ha
  exact ⟨b, hmem⟩

theorem exists_mem_zip_right {as : List α} {bs : List β} (hlength : as.length = bs.length) {b : β}
    (hb : b ∈ bs) : ∃ a, (a, b) ∈ as.zip bs := by
  rw [← List.map_snd_zip (Nat.le_of_eq hlength.symm)] at hb
  obtain ⟨⟨a, _⟩, hmem, rfl⟩ := List.mem_map.1 hb
  exact ⟨a, hmem⟩

/-- Members and what is made of their pairs stand side by side. -/
theorem forall₂_map_zip {γ : Type} {R : α → γ → Prop} {g : α × β → γ} {as : List α} {bs : List β}
    (hlength : as.length = bs.length) (h : ∀ p ∈ as.zip bs, R p.1 (g p)) :
    List.Forall₂ R as ((as.zip bs).map g) := by
  have hpairs : List.Forall₂ R ((as.zip bs).map Prod.fst) ((as.zip bs).map g) := by
    rw [List.forall₂_map_left_iff, List.forall₂_map_right_iff, List.forall₂_same]
    exact h
  rwa [List.map_fst_zip (Nat.le_of_eq hlength)] at hpairs

theorem forall₂_eq_iff {γ : Type} {f : α → γ} {g : β → γ} {as : List α} {bs : List β} :
    List.Forall₂ (fun a b => f a = g b) as bs ↔ as.map f = bs.map g := by
  rw [← List.forall₂_eq_eq_eq, List.forall₂_map_left_iff, List.forall₂_map_right_iff]

/-- What equal results tell of members, they tell of lists member by member. -/
theorem forall₂_of_map_eq {γ : Type} {R : α → β → Prop} {f : α → γ} {g : β → γ} :
    ∀ {as : List α} {bs : List β}, (∀ a ∈ as, ∀ b ∈ bs, f a = g b → R a b) →
      as.map f = bs.map g → List.Forall₂ R as bs
  | [], [], _, _ => .nil
  | a :: as, b :: bs, hR, h => by
      obtain ⟨hab, hrest⟩ := List.cons.inj h
      exact .cons (hR a List.mem_cons_self b List.mem_cons_self hab) <| forall₂_of_map_eq
        (fun a ha b hb => hR a (List.mem_cons_of_mem _ ha) b (List.mem_cons_of_mem _ hb)) hrest

/-- Side by side with a member stands a member of the other list. -/
theorem exists_mem_of_forall₂ {R : α → β → Prop} {as : List α} {bs : List β}
    (h : List.Forall₂ R as bs) {a : α} (ha : a ∈ as) : ∃ b ∈ bs, R a b := by
  induction h with
  | nil => exact absurd ha List.not_mem_nil
  | @cons _ b _ _ hab _ ih =>
    rcases List.mem_cons.1 ha with rfl | ha
    · exact ⟨b, List.mem_cons_self, hab⟩
    · obtain ⟨b', hb', hR⟩ := ih ha
      exact ⟨b', List.mem_cons_of_mem b hb', hR⟩

/-- Relations that agree on the members of a list relate it to the same lists. -/
theorem forall₂_congr_left {R S : α → β → Prop} {as : List α} {bs : List β}
    (h : ∀ a ∈ as, ∀ b, R a b ↔ S a b) : List.Forall₂ R as bs ↔ List.Forall₂ S as bs := by
  induction as generalizing bs with
  | nil => rw [List.forall₂_nil_left_iff, List.forall₂_nil_left_iff]
  | cons a as ih =>
    obtain ⟨ha, has⟩ := List.forall_mem_cons.1 h
    simp only [List.forall₂_cons_left_iff, ha, ih has]

/-- Relations that agree on the members of a list relate the same lists to it. -/
theorem forall₂_congr_right {R S : α → β → Prop} {as : List α} {bs : List β}
    (h : ∀ b ∈ bs, ∀ a, R a b ↔ S a b) : List.Forall₂ R as bs ↔ List.Forall₂ S as bs := by
  have hflip : List.Forall₂ (flip R) bs as ↔ List.Forall₂ (flip S) bs as := forall₂_congr_left h
  exact ⟨fun hR => (hflip.1 hR.flip).flip, fun hS => (hflip.2 hS.flip).flip⟩

end FrameSchema
