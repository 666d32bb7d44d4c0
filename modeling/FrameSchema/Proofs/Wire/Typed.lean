import FrameSchema.Proofs.Wire.OptionalRoundTrip

/-!
# Proofs/Wire/Typed — what is read is of the kinds that were asked for

`Gives read P` says that whatever `read` gives on success satisfies `P`.  Field lists give one value
for each kind, of that kind, and optional field lists an optional one.
-/

namespace FrameSchema.Wire

variable {α β : Type}

/-- Every result that the operation gives has the property. -/
def Gives (read : Read α) (P : α → Prop) : Prop := ∀ r a r', read r = .ok a r' → P a

namespace Gives

variable {P : α → Prop} {Q : β → Prop} {x : Read α} {f : α → Read β}

theorem pure {a : α} (h : P a) : Gives (Pure.pure a) P := by
  intro r b r' hok
  obtain ⟨rfl, rfl⟩ := EStateM.Result.ok.inj hok
  exact h

theorem throw {cause : Error} : Gives (throw cause) P := fun _ _ _ hok => nomatch hok

/-- A sequence gives what its last step gives behind what the first gave. -/
theorem bind (hx : Gives x P) (hf : ∀ a, P a → Gives (f a) Q) : Gives (x >>= f) Q := by
  intro r b r' hok
  obtain ⟨a, r₁, ha, hb⟩ := bind_eq_ok hok
  exact hf a (hx r a r₁ ha) r₁ b r' hb

/-- Where the first step may give anything. -/
theorem after (hf : ∀ a, Gives (f a) Q) : Gives (x >>= f) Q :=
  bind (P := fun _ => True) (fun _ _ _ _ => trivial) fun a _ => hf a

end Gives

theorem gives_ofExcept (x : Except Error α) : Gives (MonadExcept.ofExcept x) (x = .ok ·) := by
  cases x with
  | error cause => exact .throw
  | ok a => exact .pure rfl

/-- A value is of the kind that was asked for. -/
theorem gives_readValue (levels : Nat) (kind : Primitive) :
    Gives (readValue levels kind) (·.primitive = kind) := by
  cases kind with
  | table =>
    cases levels with
    | zero => exact .throw
    | succ levels => exact .after fun _ => .pure rfl
  | _ =>
    rw [readValue]
    exact .after fun _ => .pure rfl

/-- **One value for each kind, of that kind.** -/
theorem gives_readFieldsAfter : ∀ (kinds : List Primitive) (cursor : BitCursor),
    Gives (readFieldsAfter cursor kinds) (·.map Value.primitive = kinds)
  | [], _ => .pure rfl
  | kind :: kinds, cursor => by
      have hrest := fun cursor' => gives_readFieldsAfter kinds cursor'
      by_cases hbit : kind = .bit
      · subst hbit
        rw [readFieldsAfter]
        exact .after fun _ => (hrest _).bind fun rest h => .pure (by rw [List.map_cons, h]; rfl)
      · rw [readFieldsAfter_cons hbit]
        exact (gives_readValue _ kind).bind fun value hvalue =>
          (hrest _).bind fun rest h => .pure (by rw [List.map_cons, hvalue, h])

theorem gives_readFields (kinds : List Primitive) :
    Gives (readFields kinds) (·.map Value.primitive = kinds) := gives_readFieldsAfter kinds .none

/-- What the flags announce is of the kinds that were asked for. -/
theorem gives_readPresent : ∀ (present : List Bool) (kinds : List Primitive),
    Gives (readPresent present kinds) (PresentOfKinds kinds)
  | _, [] => .pure .nil
  | [], _ :: kinds =>
      (gives_readPresent _ kinds).bind fun _ h => .pure (.cons (fun _ hv => nomatch hv) h)
  | false :: present, _ :: kinds =>
      (gives_readPresent present kinds).bind fun _ h => .pure (.cons (fun _ hv => nomatch hv) h)
  | true :: present, kind :: kinds =>
      (gives_readValue _ kind).bind fun _ hv => (gives_readPresent present kinds).bind fun _ h =>
        .pure (.cons (fun _ hw => Option.some.inj hw ▸ hv) h)

/-- **One optional value for each kind**, of that kind where it is present. -/
theorem gives_readOptionalFields (kinds : List Primitive) :
    Gives (readOptionalFields kinds) (PresentOfKinds kinds) :=
  .after fun _ => .after fun present => gives_readPresent present kinds

end FrameSchema.Wire
