import FrameSchema.Proofs.Wire.Parametric
import FrameSchema.Proofs.Wire.Typed
import FrameSchema.Wire.Extraction

/-!
# Proofs/Wire/Extraction — values are taken in order, each at the type that is asked for

A value is something at two targets only: its payload at the type in which its kind is stored, and
itself at the target that takes everything (`Value.At`).  A cursor moves on whether or not a value
is what was asked for, so of any run of takes the k-th is decided by the k-th value and the k-th
target alone (`takeEach_eq`).  Whoever asks for what was read is never refused
(`takeEach_own`), and no reading operation has a fault of this sort itself (`BlamesInput`).
-/

namespace FrameSchema.Wire

/-! ## A value at a target -/

/-- What a value is at a target. -/
inductive Value.At : Value → (target : Target) → target.Carrier → Prop where
  | octet (v : UInt8) : At (.octet v) (.stored .u8) v
  | short (v : UInt16) : At (.short v) (.stored .u16) v
  | long (v : UInt32) : At (.long v) (.stored .u32) v
  | longlong (v : UInt64) : At (.longlong v) (.stored .u64) v
  | timestamp (v : UInt64) : At (.timestamp v) (.stored .u64) v
  | bit (v : Bool) : At (.bit v) (.stored .bool) v
  | shortstr (s : String) : At (.shortstr s) (.stored .text) s
  | longstr (s : String) : At (.longstr s) (.stored .text) s
  | table (t : Table) : At (.table t) (.stored .table) t
  | any (v : Value) : At v .any v

/-- What comes of asking for a value at a target: what it is there, or, if it is stored in another
type, a mismatch that names its kind. -/
inductive Value.Extracts (value : Value) :
    (target : Target) → Except Error target.Carrier → Prop where
  | ok {target : Target} {payload : target.Carrier} (h : value.At target payload) :
      Extracts value target (.ok payload)
  | mismatch {storage : Storage} (h : value.primitive.storage ≠ storage) :
      Extracts value (.stored storage) (.error (.typeMismatch storage value.primitive))

/-- What comes of asking for a value that may be absent; nothing is absent at any target. -/
inductive ExtractsOptional :
    Option Value → (target : Target) → Except Error (Option target.Carrier) → Prop where
  | absent (target : Target) : ExtractsOptional none target (.ok none)
  | present {value : Value} {target : Target} {result : Except Error target.Carrier}
      (h : value.Extracts target result) : ExtractsOptional (some value) target (some <$> result)

/-- A value is its payload at the type in which its kind is stored. -/
theorem Value.at_payload (value : Value) :
    value.At (.stored value.primitive.storage) value.payload := by
  cases value with
  | octet v => exact .octet v
  | short v => exact .short v
  | long v => exact .long v
  | longlong v => exact .longlong v
  | timestamp v => exact .timestamp v
  | bit v => exact .bit v
  | shortstr s => exact .shortstr s
  | longstr s => exact .longstr s
  | table t => exact .table t

/-- A value is taken in the type in which its own kind is stored. -/
@[simp] theorem as_stored (v : Value) : v.as (.stored v.primitive.storage) = .ok v.payload := by
  rw [Value.as, dif_pos rfl]

/-- What the taking gives is what a value is at the target, or the mismatch. -/
theorem Value.extracts_as (value : Value) (target : Target) :
    value.Extracts target (value.as target) := by
  cases target with
  | any => exact .ok (.any value)
  | stored storage =>
    by_cases h : value.primitive.storage = storage
    · subst h
      rw [as_stored]
      exact .ok value.at_payload
    · rw [Value.as, dif_neg h]
      exact .mismatch h

/-! ## Runs of takes -/

section Runs

variable {α : Type} {β : Target → Type}

/-- Takes one value for each target, whatever comes of those before. -/
def takeEach (take : (target : Target) → Fields α → Except Error (β target) × Fields α) :
    List Target → Fields α → List ((target : Target) × Except Error (β target)) × Fields α
  | [], fields => ([], fields)
  | target :: targets, fields =>
    let step := take target fields
    let rest := takeEach take targets step.2
    (⟨target, step.1⟩ :: rest.1, rest.2)

/-- **One step**: the cursor moves over a value that is left, and stays where none is. -/
structure Steps (take : (target : Target) → Fields α → Except Error (β target) × Fields α)
    (extract : (target : Target) → α → Except Error (β target)) : Prop where
  next (target : Target) (a : α) (rest : List α) (taken : Nat) :
    take target ⟨a :: rest, taken⟩ = (extract target a, ⟨rest, taken + 1⟩)
  spent (target : Target) (taken : Nat) :
    take target ⟨[], taken⟩ = (.error (.missingField taken), ⟨[], taken⟩)

variable {take : (target : Target) → Fields α → Except Error (β target) × Fields α}
  {extract : (target : Target) → α → Except Error (β target)}

/-- **A run**: the values are taken by their places, and behind the last each take tells how many
there were. -/
theorem Steps.takeEach_eq (h : Steps take extract) : ∀ (targets : List Target) (values : List α)
    (taken : Nat), takeEach take targets ⟨values, taken⟩ =
      (targets.mapIdx fun k target => ⟨target, (values[k]?.map (extract target)).getD
          (.error (.missingField (taken + values.length)))⟩,
        ⟨values.drop targets.length, taken + min targets.length values.length⟩)
  | [], values, taken => by simp [takeEach]
  | target :: targets, [], taken => by
      simp only [takeEach, h.spent, h.takeEach_eq targets []]
      simp
  | target :: targets, v :: values, taken => by
      simp only [takeEach, h.next, h.takeEach_eq targets values]
      simp [Nat.add_comm, Nat.add_left_comm, Nat.add_min_add_right]

end Runs

/-- The next value as a target type, absent if it is absent. -/
def optionalAs (target : Target) : Option Value → Except Error (Option target.Carrier)
  | none => .ok none
  | some value => some <$> value.as target

theorem extractsOptional_as (target : Target) :
    ∀ value : Option Value, ExtractsOptional value target (optionalAs target value)
  | none => .absent target
  | some value => .present (value.extracts_as target)

theorem steps_take : Steps Fields.take fun target value => value.as target :=
  ⟨fun _ _ _ _ => rfl, fun _ _ => rfl⟩

theorem steps_takeOptional : Steps Fields.takeOptional optionalAs where
  next target value rest taken := by cases value <;> rfl
  spent _ _ := rfl

/-- **What a run of takes gives**: one result for each target, the k-th being decided by the k-th
value, or, if there is none, by the number of values; and the values that were not reached. -/
structure TakenInOrder {α : Type} {β : Target → Type}
    (extracts : α → (target : Target) → Except Error (β target) → Prop) (values : List α)
    (targets : List Target) (run : List ((target : Target) × Except Error (β target)) × Fields α) :
    Prop where
  length : run.1.length = targets.length
  result : ∀ k target, targets[k]? = some target → ∃ result, run.1[k]? = some ⟨target, result⟩ ∧
    (∀ v, values[k]? = some v → extracts v target result) ∧
    (values.length ≤ k → result = .error (.missingField values.length))
  rest : run.2.rest = values.drop targets.length

section Runs

variable {α : Type} {β : Target → Type}
  {take : (target : Target) → Fields α → Except Error (β target) × Fields α}
  {extract : (target : Target) → α → Except Error (β target)}
  {extracts : α → (target : Target) → Except Error (β target) → Prop}

/-- A run whose steps extract gives each target what the value at its place is there. -/
theorem Steps.takenInOrder (h : Steps take extract)
    (hextract : ∀ target a, extracts a target (extract target a)) (targets : List Target)
    (values : List α) :
    TakenInOrder extracts values targets (takeEach take targets (.ofList values)) := by
  rw [Fields.ofList, h.takeEach_eq, Nat.zero_add]
  refine ⟨List.length_mapIdx, fun k target htarget => ?_, rfl⟩
  refine ⟨_, by rw [List.getElem?_mapIdx, htarget, Option.map_some], fun v hv => ?_, fun hk => ?_⟩
  · rw [hv]
    exact hextract target v
  · rw [List.getElem?_eq_none hk]
    rfl

/-- A run in which no value can refuse its target succeeds throughout. -/
theorem TakenInOrder.forall_ok {values : List α} {targets : List Target}
    {run : List ((target : Target) × Except Error (β target)) × Fields α}
    (h : TakenInOrder extracts values targets run)
    (hvalues : List.Forall₂ (fun v target => ∀ result, extracts v target result →
      ∃ payload, result = .ok payload) values targets) :
    ∀ taken ∈ run.1, ∃ payload, taken.2 = .ok payload := by
  intro taken hmem
  obtain ⟨k, hk, rfl⟩ := List.mem_iff_getElem.1 hmem
  have htarget : k < targets.length := h.length ▸ hk
  have hvalue : k < values.length := hvalues.length_eq ▸ htarget
  obtain ⟨result, hresult, hextracts, -⟩ := h.result k _ (List.getElem?_eq_getElem htarget)
  rw [List.getElem?_eq_getElem hk, Option.some.injEq] at hresult
  rw [hresult]
  exact hvalues.get hvalue htarget result (hextracts _ (List.getElem?_eq_getElem hvalue))

end Runs

/-! ## Values that were read -/

/-- A value is not refused in the type in which its own kind is stored. -/
theorem Value.Extracts.exists_ok {value : Value} {storage : Storage}
    {result : Except Error (Target.Carrier (.stored storage))}
    (h : value.Extracts (.stored storage) result) (hstorage : value.primitive.storage = storage) :
    ∃ payload, result = .ok payload := by
  cases h with
  | ok => exact ⟨_, rfl⟩
  | mismatch hne => exact absurd hstorage hne

/-- An optional value is not refused in the type in which its kind is stored, if there is one. -/
theorem ExtractsOptional.exists_ok {value : Option Value} {storage : Storage}
    {result : Except Error (Option (Target.Carrier (.stored storage)))}
    (h : ExtractsOptional value (.stored storage) result)
    (hstorage : ∀ v ∈ value, v.primitive.storage = storage) : ∃ payload, result = .ok payload := by
  cases h with
  | absent => exact ⟨none, rfl⟩
  | present h =>
    obtain ⟨payload, rfl⟩ := h.exists_ok (hstorage _ rfl)
    exact ⟨some payload, rfl⟩

/-- The targets at which values of some kinds are what is stored for them. -/
def ownTargets (kinds : List Primitive) : List Target := kinds.map fun kind => .stored kind.storage

/-- **Values of some kinds are taken at the types in which these are stored.** -/
theorem takeEach_own {kinds : List Primitive} {values : List Value}
    (h : values.map Value.primitive = kinds) :
    ∀ taken ∈ (takeEach Fields.take (ownTargets kinds) (.ofList values)).1,
      ∃ payload, taken.2 = .ok payload := by
  refine (steps_take.takenInOrder (fun target value => value.extracts_as target) _ _).forall_ok ?_
  rw [ownTargets, List.forall₂_map_right_iff, ← h, List.forall₂_map_right_iff, List.forall₂_same]
  exact fun v _ result hresult => hresult.exists_ok rfl

/-- Optional values of some kinds are taken at the types in which these are stored. -/
theorem takeEach_ownOptional {kinds : List Primitive} {values : List (Option Value)}
    (h : PresentOfKinds kinds values) :
    ∀ taken ∈ (takeEach Fields.takeOptional (ownTargets kinds) (.ofList values)).1,
      ∃ payload, taken.2 = .ok payload := by
  refine (steps_takeOptional.takenInOrder extractsOptional_as _ _).forall_ok ?_
  rw [ownTargets, List.forall₂_map_right_iff]
  exact h.flip.imp fun value kind hkind result hresult =>
    hresult.exists_ok fun v hv => congrArg Primitive.storage (hkind v hv)

/-! ## Faults of reading -/

/-- Every fault of the operation lies with the octets. -/
def BlamesInput {α : Type} (read : Read α) : Prop :=
  ∀ r cause r', read r = .error cause r' → ¬cause.IsExtraction

namespace BlamesInput

variable {α β : Type} {x : Read α} {f : α → Read β}

theorem pure (a : α) : BlamesInput (Pure.pure a : Read α) := fun _ _ _ h => nomatch h

theorem throw {cause : Error} (h : ¬cause.IsExtraction) : BlamesInput (throw cause : Read α) := by
  intro r cause' r' herror
  obtain ⟨rfl, -⟩ := EStateM.Result.error.inj herror
  exact h

theorem bind (hx : BlamesInput x) (hf : ∀ a, BlamesInput (f a)) : BlamesInput (x >>= f) := by
  intro r cause r' herror
  cases hread : x r with
  | ok a r₁ => exact hf a r₁ cause r' (by grind)
  | error cause' r₁ => exact hx r cause r' (by grind)

/-- Looking at the cursor does not fail. -/
theorem get {f : Reader → Read β} (hf : ∀ r, BlamesInput (f r)) :
    BlamesInput (MonadState.get >>= f) := by
  intro r cause r' herror
  rw [get_bind] at herror
  exact hf r r cause r' herror

end BlamesInput

/-- Octets that are missing are a fault of the input. -/
theorem blamesInput_readExactly (count : Nat) : BlamesInput (readExactly count) := by
  intro r cause r' h
  rw [readExactly] at h
  split at h
  · cases h
  · obtain ⟨rfl, -⟩ := EStateM.Result.error.inj h
    rintro ⟨⟩

/-- A length that is too large is a fault of the input. -/
theorem blamesInput_checkLength (count : Nat) : BlamesInput (checkLength count) := by
  intro r cause r' h
  rw [checkLength] at h
  split at h
  · cases h
  · obtain ⟨rfl, -⟩ := EStateM.Result.error.inj h
    rintro ⟨⟩

/-- **Faults that lie with the octets are told by single steps.** -/
theorem stepwise_blamesInput : Stepwise 0 fun x _ => BlamesInput x where
  pure := .pure
  throw := .throw
  bind := .bind
  get := .get
  readExactly := blamesInput_readExactly
  checkLength := blamesInput_checkLength

/-- **Reading blames the octets only**, whatever fields are read. -/
theorem blamesInput_readFields (kinds : List Primitive) : BlamesInput (readFields kinds) :=
  stepwise_blamesInput.parametric.readFields kinds

theorem blamesInput_readOptionalFields (kinds : List Primitive) :
    BlamesInput (readOptionalFields kinds) :=
  stepwise_blamesInput.readOptionalFields kinds

end FrameSchema.Wire
