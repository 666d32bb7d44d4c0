import FrameSchema.Schema.Check
import FrameSchema.Proofs.Distinct
import FrameSchema.Proofs.Success
import FrameSchema.Proofs.Wire.TableView
import Mathlib.Tactic.MkIffOfInductiveProp

/-!
# Proofs/Schema/WellFormed — what the check of a model says

`Model.WellFormed` lists, without any order of search, the facts that make a model a schema, and
`Model.check_eq_ok_iff` says that the check passes exactly where they hold.  Each part of the check
that walks the model with the names it has seen is a question of fresh names (`Fresh`); the walk
through classes and methods, which takes types and stems at once, is put together from its steps
(`Takes`).
-/

namespace FrameSchema.Schema

/-! ## Taking names -/

/-- The names taken so far. -/
def TakenNames.names (taken : TakenNames) : List String := taken.map Prod.fst

/-- A name that was claimed is taken. -/
@[simp] theorem TakenNames.names_cons (name origin : String) (taken : TakenNames) :
    names ((name, origin) :: taken) = name :: taken.names := rfl

/-- Nothing is found exactly under the keys that are not listed. -/
theorem lookup_eq_none_iff {α β : Type} [DecidableEq α] {k : α} {l : List (α × β)} :
    l.lookup k = none ↔ k ∉ l.map Prod.fst := by
  rw [← Option.not_isSome_iff_eq_none, Wire.lookup_isSome_iff_mem]

/-- A name is claimed exactly if it was not taken, and is taken then. -/
theorem claim_eq_ok_iff {taken after : TakenNames} {kind : NameKind} {name origin : String} :
    taken.claim kind name origin = .ok after ↔
      name ∉ taken.names ∧ (name, origin) :: taken = after := by
  rw [TakenNames.claim, TakenNames.names, ← lookup_eq_none_iff]
  cases taken.lookup name with
  | some first => exact ⟨fun h => (nomatch h), fun h => (nomatch h.1)⟩
  | none => rw [Except.ok.injEq, and_iff_right rfl]

/-- The domains pass exactly if none has the name of one before. -/
theorem checkDomains_eq_ok_iff : ∀ {taken : List String} {domains : List Domain},
    checkDomains taken domains = .ok () ↔ Fresh taken (domains.map (·.name))
  | taken, [] => ⟨fun _ => fresh_nil, fun _ => rfl⟩
  | taken, d :: domains => by
      rw [checkDomains, List.map_cons, fresh_cons_iff, ← checkDomains_eq_ok_iff]
      by_cases h : d.name ∈ taken
      · rw [if_pos (List.contains_iff_mem.2 h)]
        exact ⟨fun hok => (nomatch hok), fun hok => absurd h hok.1⟩
      · rw [if_neg fun hmem => h (List.contains_iff_mem.1 hmem), and_iff_right h]

/-- No member is found at fault exactly if each is in order. -/
theorem find?_not_eq_none_iff {α : Type} {p : α → Bool} {l : List α} :
    l.find? (!p ·) = none ↔ ∀ a ∈ l, p a := by
  rw [List.find?_eq_none]
  exact forall₂_congr fun a _ => by rw [Bool.not_eq_true, Bool.not_eq_false']

/-- The names pass exactly if each can be made an identifier. -/
theorem checkNames_eq_ok_iff {names : List String} :
    checkNames names = .ok () ↔ ∀ name ∈ names, isAdmissibleName name := by
  rw [checkNames, ← find?_not_eq_none_iff]
  cases names.find? (!isAdmissibleName ·) with
  | some name => exact ⟨fun h => (nomatch h), fun h => (nomatch h)⟩
  | none => exact ⟨fun _ => rfl, fun _ => rfl⟩

/-- Fields of one list are told apart by their identifiers and by their keys. -/
@[mk_iff]
structure FieldNamesDistinct (names : List String) : Prop where
  idents : (names.map Identifier.snake).Nodup
  keys : (names.map Identifier.lowerCamel).Nodup

/-- The fields of a list pass exactly if their identifiers and their keys are fresh. -/
theorem checkFieldNames_eq_ok_iff {owner : String} : ∀ {identifiers keys : TakenNames}
    {names : List String}, checkFieldNames owner identifiers keys names = .ok () ↔
      Fresh identifiers.names (names.map Identifier.snake) ∧
        Fresh keys.names (names.map Identifier.lowerCamel)
  | _, _, [] => ⟨fun _ => ⟨fresh_nil, fresh_nil⟩, fun _ => rfl⟩
  | identifiers, keys, name :: names => by
      simp only [checkFieldNames, bind_eq_ok_iff, claim_eq_ok_iff, List.map_cons, fresh_cons_iff]
      constructor
      · rintro ⟨_, ⟨hident, rfl⟩, _, ⟨hkey, rfl⟩, h⟩
        obtain ⟨hidents, hkeys⟩ := checkFieldNames_eq_ok_iff.1 h
        exact ⟨⟨hident, by simpa using hidents⟩, hkey, by simpa using hkeys⟩
      · rintro ⟨⟨hident, hidents⟩, hkey, hkeys⟩
        refine ⟨_, ⟨hident, rfl⟩, _, ⟨hkey, rfl⟩, checkFieldNames_eq_ok_iff.2 ?_⟩
        simpa using ⟨hidents, hkeys⟩

theorem checkFieldNames_nil_eq_ok_iff {owner : String} {names : List String} :
    checkFieldNames owner [] [] names = .ok () ↔ FieldNamesDistinct names := by
  rw [checkFieldNames_eq_ok_iff, TakenNames.names, List.map_nil, fresh_nil_iff, fresh_nil_iff,
    fieldNamesDistinct_iff]

/-- The constants pass exactly if their identifiers are fresh. -/
theorem checkConstants_eq_ok_iff : ∀ {taken : TakenNames} {constants : List Constant},
    checkConstants taken constants = .ok () ↔
      Fresh taken.names (constants.map fun c => Identifier.constant c.name)
  | _, [] => ⟨fun _ => fresh_nil, fun _ => rfl⟩
  | taken, c :: constants => by
      simp only [checkConstants, bind_eq_ok_iff, claim_eq_ok_iff, List.map_cons, fresh_cons_iff]
      constructor
      · rintro ⟨_, ⟨hname, rfl⟩, h⟩
        exact ⟨hname, by simpa using checkConstants_eq_ok_iff.1 h⟩
      · rintro ⟨hname, h⟩
        exact ⟨_, ⟨hname, rfl⟩, checkConstants_eq_ok_iff.2 (by simpa using h)⟩

theorem checkConstants_nil_eq_ok_iff {constants : List Constant} :
    checkConstants [] constants = .ok () ↔
      (constants.map fun c => Identifier.constant c.name).Nodup := by
  rw [checkConstants_eq_ok_iff, TakenNames.names, List.map_nil, fresh_nil_iff]

/-! ## The walk through classes and methods -/

/-- A step of the walk: it goes through exactly if the names it takes are fresh and its own part of
the model is sound, and then these names are taken. -/
structure Takes (step : ModuleNames → Except Error ModuleNames) (types stems : List String)
    (sound : Prop) : Prop where
  ok_iff : ∀ taken, (∃ after, step taken = .ok after) ↔
    Fresh taken.types.names types ∧ Fresh taken.functions.names stems ∧ sound
  taken : ∀ {taken after}, step taken = .ok after →
    after.types.names = types.reverse ++ taken.types.names ∧
      after.functions.names = stems.reverse ++ taken.functions.names

namespace Takes

variable {step step' : ModuleNames → Except Error ModuleNames}
  {types types' stems stems' : List String} {sound sound' : Prop}

theorem pure : Takes Pure.pure [] [] True where
  ok_iff taken := ⟨fun _ => ⟨fresh_nil, fresh_nil, trivial⟩, fun _ => ⟨taken, rfl⟩⟩
  taken h := by
    obtain rfl := Except.ok.inj h
    exact ⟨rfl, rfl⟩

/-- Steps follow each other. -/
theorem bind (h : Takes step types stems sound) (h' : Takes step' types' stems' sound') :
    Takes (fun taken => step taken >>= step') (types ++ types') (stems ++ stems')
      (sound ∧ sound') where
  ok_iff taken := by
    simp only [bind_eq_ok_iff, fresh_append_iff]
    constructor
    · rintro ⟨after, between, hstep, hstep'⟩
      obtain ⟨htypes, hstems, hsound⟩ := (h.ok_iff taken).1 ⟨between, hstep⟩
      obtain ⟨htypes', hstems', hsound'⟩ := (h'.ok_iff between).1 ⟨after, hstep'⟩
      rw [(h.taken hstep).1] at htypes'
      rw [(h.taken hstep).2] at hstems'
      exact ⟨⟨htypes, htypes'⟩, ⟨hstems, hstems'⟩, hsound, hsound'⟩
    · rintro ⟨⟨htypes, htypes'⟩, ⟨hstems, hstems'⟩, hsound, hsound'⟩
      obtain ⟨between, hstep⟩ := (h.ok_iff taken).2 ⟨htypes, hstems, hsound⟩
      rw [← (h.taken hstep).1] at htypes'
      rw [← (h.taken hstep).2] at hstems'
      obtain ⟨after, hstep'⟩ := (h'.ok_iff between).2 ⟨htypes', hstems', hsound'⟩
      exact ⟨after, between, hstep, hstep'⟩
  taken hok := by
    obtain ⟨between, hstep, hstep'⟩ := bind_eq_ok_iff.1 hok
    rw [(h'.taken hstep').1, (h'.taken hstep').2, (h.taken hstep).1, (h.taken hstep).2,
      List.reverse_append, List.reverse_append, List.append_assoc, List.append_assoc]
    exact ⟨rfl, rfl⟩

/-- A list is gone through member by member. -/
theorem foldlM {α : Type} {step : ModuleNames → α → Except Error ModuleNames}
    {types stems : α → List String} {sound : α → Prop} : ∀ as : List α,
    (∀ a ∈ as, Takes (step · a) (types a) (stems a) (sound a)) →
      Takes (fun taken => as.foldlM step taken) (as.flatMap types) (as.flatMap stems)
        (∀ a ∈ as, sound a)
  | [], _ => by simpa using Takes.pure
  | a :: as, h => by
      have htail := foldlM as fun b hb => h b (List.mem_cons_of_mem a hb)
      simpa only [List.foldlM_cons, List.flatMap_cons, List.forall_mem_cons] using
        (h a List.mem_cons_self).bind htail

end Takes

/-- The types of a method, in the order in which they are taken. -/
def Class.typesOf (c : Class) (m : Method) : List String :=
  [Identifier.methodTypeName c.name m.name ++ "Args", Identifier.methodTypeName c.name m.name]

/-- The types of a class and of its methods. -/
def Class.types (c : Class) : List String :=
  [Identifier.typeName c.name ++ "Properties", Identifier.typeName c.name ++ "Header"] ++
    c.methods.flatMap c.typesOf

/-- The stems of a class and of its methods. -/
def Class.stems (c : Class) : List String :=
  Identifier.headerStem c.name :: c.methods.map fun m => Identifier.methodStem c.name m.name

/-- The properties of a class, and the arguments of each of its methods, are told apart. -/
@[mk_iff]
structure Class.FieldsDistinct (c : Class) : Prop where
  properties : FieldNamesDistinct (c.properties.map (·.name))
  arguments : ∀ m ∈ c.methods, FieldNamesDistinct (m.arguments.map (·.name))

/-- What methods and headers take alike: two types, a stem, and the names of their fields. -/
def claimFrame (taken : ModuleNames) (type type' stem origin : String) (fields : List String) :
    Except Error ModuleNames := do
  let types ← taken.types.claim .type type origin
  let types ← types.claim .type type' origin
  let functions ← taken.functions.claim .function stem origin
  checkFieldNames origin [] [] fields
  return ⟨types, functions⟩

/-- **Methods and headers take their types and their stem**, if their fields are told apart. -/
theorem takes_claimFrame (type type' stem origin : String) (fields : List String) :
    Takes (claimFrame · type type' stem origin fields) [type, type'] [stem]
      (FieldNamesDistinct fields) where
  ok_iff taken := by
    simp only [claimFrame, bind_eq_ok_iff, claim_eq_ok_iff, fresh_cons_iff]
    constructor
    · rintro ⟨_, _, ⟨htype, rfl⟩, _, ⟨htype', rfl⟩, _, ⟨hstem, rfl⟩, _, hfields, _⟩
      exact ⟨⟨htype, htype', fresh_nil⟩, ⟨hstem, fresh_nil⟩,
        checkFieldNames_nil_eq_ok_iff.1 hfields⟩
    · rintro ⟨⟨htype, htype', _⟩, ⟨hstem, _⟩, hfields⟩
      exact ⟨_, _, ⟨htype, rfl⟩, _, ⟨htype', rfl⟩, _, ⟨hstem, rfl⟩, (),
        checkFieldNames_nil_eq_ok_iff.2 hfields, rfl⟩
  taken h := by
    simp only [claimFrame, bind_eq_ok_iff, claim_eq_ok_iff] at h
    obtain ⟨_, ⟨_, rfl⟩, _, ⟨_, rfl⟩, _, ⟨_, rfl⟩, _, _, h⟩ := h
    obtain rfl := Except.ok.inj h
    exact ⟨rfl, rfl⟩

theorem takes_claimMethod (c : Class) (m : Method) :
    Takes (claimMethod c · m) (c.typesOf m) [Identifier.methodStem c.name m.name]
      (FieldNamesDistinct (m.arguments.map (·.name))) :=
  takes_claimFrame _ _ _ (c.name ++ "." ++ m.name) _

/-- What a class takes before its methods. -/
def claimHeader (taken : ModuleNames) (c : Class) : Except Error ModuleNames :=
  claimFrame taken (Identifier.typeName c.name ++ "Properties")
    (Identifier.typeName c.name ++ "Header") (Identifier.headerStem c.name) c.name
    (c.properties.map (·.name))

/-- A class claims what its header takes, and then what its methods take. -/
theorem claimClass_eq (taken : ModuleNames) (c : Class) :
    claimClass taken c = claimHeader taken c >>= (c.methods.foldlM (claimMethod c) ·) := by
  simp only [claimClass, claimHeader, claimFrame, bind_assoc, pure_bind]

/-- **A class takes its types and stems**, those of its header before those of its methods. -/
theorem takes_claimClass (c : Class) :
    Takes (claimClass · c) c.types c.stems c.FieldsDistinct := by
  have hheader := takes_claimFrame (Identifier.typeName c.name ++ "Properties")
    (Identifier.typeName c.name ++ "Header") (Identifier.headerStem c.name) c.name
    (c.properties.map (·.name))
  have hmethods := Takes.foldlM c.methods fun m _ => takes_claimMethod c m
  rw [Class.stems, List.map_eq_flatMap]
  simp only [claimClass_eq, Class.fieldsDistinct_iff]
  exact hheader.bind hmethods

/-- The types that every generated module has: the two of what may be received, and those that it
imports. -/
def ownTypes : List String := [
  "ReceivedMessage", "ReceivedHeader", "FieldTable", "FieldValue", "PrimitiveType", "Reader",
  "WireError"]

/-- The stems of the two dispatchers that every generated module has. -/
def ownStems : List String := ["method", "header"]

/-- The types that the generated module declares or imports, those of its own accord first. -/
def Model.types (model : Model) : List String :=
  ownTypes ++ model.classes.flatMap (·.types)

/-- The stems of all functions, those of the dispatchers first. -/
def Model.stems (model : Model) : List String :=
  ownStems ++ model.classes.flatMap (·.stems)

@[simp] theorem names_types_reserved : ModuleNames.reserved.types.names = ownTypes := rfl

@[simp] theorem names_functions_reserved : ModuleNames.reserved.functions.names = ownStems := rfl

/-- **No identifier collides exactly if each row of them is without repetition**, those that every
module has included. -/
theorem checkCollisions_eq_ok_iff {model : Model} :
    checkCollisions model = .ok () ↔
      (model.constants.map fun c => Identifier.constant c.name).Nodup ∧
        model.types.Nodup ∧ model.stems.Nodup ∧ ∀ c ∈ model.classes, c.FieldsDistinct := by
  have hwalk := (Takes.foldlM model.classes fun c _ => takes_claimClass c).ok_iff .reserved
  rw [names_types_reserved, names_functions_reserved, fresh_iff_nodup_append (by decide),
    fresh_iff_nodup_append (by decide)] at hwalk
  rw [Model.types, Model.stems, ← hwalk, ← checkConstants_nil_eq_ok_iff, checkCollisions,
    bind_unit_eq_ok_iff, bind_eq_ok_iff]
  exact and_congr_right fun _ => exists_congr fun _ => and_iff_left rfl

/-! ## Numbers and answers -/

/-- The methods of a class pass exactly if their numbers are fresh. -/
theorem checkMethodIds_eq_ok_iff {className : String} : ∀ {taken : List (UInt16 × String)}
    {methods : List Method}, checkMethodIds className taken methods = .ok () ↔
      Fresh (taken.map Prod.fst) (methods.map (·.id))
  | _, [] => ⟨fun _ => fresh_nil, fun _ => rfl⟩
  | taken, m :: methods => by
      rw [checkMethodIds, List.map_cons, fresh_cons_iff, ← lookup_eq_none_iff]
      cases taken.lookup m.id with
      | some first => exact ⟨fun h => (nomatch h), fun h => (nomatch h.1)⟩
      | none => exact checkMethodIds_eq_ok_iff.trans (and_iff_right rfl).symm

/-- The answers pass exactly if each is a method of the class. -/
theorem checkResponses_eq_ok_iff {c : Class} :
    checkResponses c = .ok () ↔ ∀ m ∈ c.methods, c.knowsResponse m := by
  rw [checkResponses, ← find?_not_eq_none_iff]
  cases c.methods.find? (!c.knowsResponse ·) with
  | some m => exact ⟨fun h => (nomatch h), fun h => (nomatch h)⟩
  | none => exact ⟨fun _ => rfl, fun _ => rfl⟩

/-- The numbers of a class's methods are distinct, and its answers are methods of its own. -/
@[mk_iff]
structure Class.NumbersSound (c : Class) : Prop where
  methodIds : (c.methods.map (·.id)).Nodup
  responses : ∀ m ∈ c.methods, c.knowsResponse m

/-- The numbers pass exactly if those of the classes are fresh and each class is sound in itself. -/
theorem checkIds_eq_ok_iff : ∀ {taken : List (UInt16 × String)} {classes : List Class},
    checkIds taken classes = .ok () ↔
      Fresh (taken.map Prod.fst) (classes.map (·.id)) ∧ ∀ c ∈ classes, c.NumbersSound
  | _, [] => ⟨fun _ => ⟨fresh_nil, by simp⟩, fun _ => rfl⟩
  | taken, c :: classes => by
      rw [checkIds, List.map_cons, fresh_cons_iff, ← lookup_eq_none_iff, List.forall_mem_cons]
      cases taken.lookup c.id with
      | some first => exact ⟨fun h => (nomatch h), fun h => (nomatch h.1.1)⟩
      | none =>
        simp only [bind_unit_eq_ok_iff, checkMethodIds_eq_ok_iff, List.map_nil, fresh_nil_iff,
          checkResponses_eq_ok_iff, checkIds_eq_ok_iff, List.map_cons, Class.numbersSound_iff,
          true_and]
        constructor
        · rintro ⟨hids, hresponses, hfresh, hsound⟩
          exact ⟨hfresh, ⟨hids, hresponses⟩, hsound⟩
        · rintro ⟨hfresh, ⟨hids, hresponses⟩, hsound⟩
          exact ⟨hids, hresponses, hfresh, hsound⟩

/-! ## Arguments -/

/-- An argument has a kind, and its default, if there is one, fits it. -/
def Model.Settles (model : Model) (a : Argument) : Prop :=
  ∃ primitive, model.resolve a = .ok primitive ∧ ∀ d ∈ a.default, d.fits primitive

/-- An argument passes exactly if it has a kind that its default fits. -/
theorem checkArgument_eq_ok_iff {model : Model} {c : Class} {m : Method} {a : Argument} :
    checkArgument model c m a = .ok () ↔ model.Settles a := by
  rw [checkArgument, bind_eq_ok_iff, Model.Settles]
  refine exists_congr fun primitive => and_congr_right fun _ => ?_
  cases a.default with
  | none => exact ⟨fun _ => by simp, fun _ => rfl⟩
  | some d =>
    by_cases h : d.fits primitive
    · simp [h, Pure.pure, Except.pure]
    · simp [h, throw, throwThe, MonadExceptOf.throw]

theorem checkArguments_eq_ok_iff {model : Model} :
    checkArguments model = .ok () ↔
      ∀ c ∈ model.classes, ∀ m ∈ c.methods, ∀ a ∈ m.arguments, model.Settles a := by
  simp only [checkArguments, forM_eq_ok_iff, checkArgument_eq_ok_iff]

/-! ## The check as a whole -/

/-- **The facts that make a model a schema.** -/
@[mk_iff]
structure Model.WellFormed (model : Model) : Prop where
  domains : (model.domains.map (·.name)).Nodup
  names : ∀ name ∈ model.names, isAdmissibleName name
  constants : (model.constants.map fun c => Identifier.constant c.name).Nodup
  types : model.types.Nodup
  stems : model.stems.Nodup
  fields : ∀ c ∈ model.classes, c.FieldsDistinct
  classIds : (model.classes.map (·.id)).Nodup
  numbers : ∀ c ∈ model.classes, c.NumbersSound
  arguments : ∀ c ∈ model.classes, ∀ m ∈ c.methods, ∀ a ∈ m.arguments, model.Settles a

/-- **The check passes exactly the well-formed models.** -/
theorem Model.check_eq_ok_iff {model : Model} : model.check = .ok () ↔ model.WellFormed := by
  simp only [Model.check, bind_unit_eq_ok_iff, checkDomains_eq_ok_iff, checkNames_eq_ok_iff,
    checkCollisions_eq_ok_iff, checkIds_eq_ok_iff, checkArguments_eq_ok_iff, List.map_nil,
    fresh_nil_iff, Model.wellFormed_iff, and_assoc]

end FrameSchema.Schema

namespace FrameSchema

/-- A schema is well-formed. -/
theorem Schema.wellFormed (schema : Schema) : schema.toModel.WellFormed :=
  Schema.Model.check_eq_ok_iff.1 schema.checked

/-! ## A schema -/

namespace Schema

/-- A request with bits side by side, a table, a field typed by a domain, and defaults. -/
def declare : Method where
  id := 10
  name := "declare"
  arguments := [
    ⟨"ticket", .explicit .short, some (.int 0)⟩,
    ⟨"queue-name", .byDomain "queue-name", none⟩,
    ⟨"passive", .explicit .bit, some (.bool false)⟩,
    ⟨"durable", .explicit .bit, some (.bool false)⟩,
    ⟨"arguments", .explicit .table, some .emptyTable⟩]
  synchronous := true
  response := some "declare-ok"
  content := false

/-- A class with that request, an answer without fields, and two properties. -/
def queueClass : Class where
  id := 50
  name := "queue"
  methods := [declare, ⟨11, "declare-ok", [], false, none, false⟩]
  properties := [⟨"content-type", .shortstr⟩, ⟨"priority", .octet⟩]

/-- A schema of one class. -/
def queue : Schema where
  classes := [queueClass]
  domains := [⟨"queue-name", .shortstr⟩]
  constants := [⟨"reply-success", 200, none⟩]
  checked := toOption_eq_some_iff.1 (by decide +kernel)

end Schema

end FrameSchema
