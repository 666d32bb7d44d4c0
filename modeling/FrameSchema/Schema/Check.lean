import FrameSchema.Identifier
import FrameSchema.Schema.Default
import FrameSchema.Schema.Error

/-!
# Schema/Check — which models make a schema

`Model.check` refuses a model from which no working code could be generated, and names the first
cause in this order:

1. two domains of one name;
2. a name that is not made of ASCII letters, digits, `_`, `-` and `.`, or has neither letter nor
   digit;
3. two generated names that clash: constants first, then class by class the types, functions and
   fields, in the order of the schema;
4. class by class, a class number or method number used twice, or an answer that is no method of
   the class;
5. an argument whose domain is unknown, or whose default does not fit.

A `Schema` is a model together with the fact that it passes.
-/

namespace FrameSchema.Schema

/-! ## Names -/

/-- Whether a character may stand in a schema name. -/
def isNameChar (c : Char) : Bool := c.isAlphanum || c == '_' || c == '-' || c == '.'

/-- Whether identifiers can be made from a name. -/
def isAdmissibleName (name : String) : Bool :=
  name.toList.all isNameChar && name.toList.any Char.isAlphanum

/-- The names that have to be admissible, in the order of the schema. -/
def Model.names (model : Model) : List String :=
  (model.classes.flatMap fun c =>
    c.name :: c.properties.map (·.name) ++
      c.methods.flatMap fun m => m.name :: m.arguments.map (·.name)) ++
  model.constants.map (·.name)

/-- Refuses the first name that is not admissible. -/
def checkNames (names : List String) : Except Error Unit :=
  match names.find? (!isAdmissibleName ·) with
  | some name => .error (.invalidIdentifier name)
  | none => .ok ()

/-- Refuses the first domain whose name was taken before. -/
def checkDomains : (taken : List String) → List Domain → Except Error Unit
  | _, [] => .ok ()
  | taken, d :: rest =>
    if taken.contains d.name then .error (.duplicateDomain d.name)
    else checkDomains (d.name :: taken) rest

/-! ## Clashes of generated names -/

/-- Names taken so far, each with the schema name that took it. -/
abbrev TakenNames := List (String × String)

/-- Takes a name for an origin, unless it is taken. -/
def TakenNames.claim (taken : TakenNames) (kind : NameKind) (name origin : String) :
    Except Error TakenNames :=
  match taken.lookup name with
  | some first => .error (.duplicateName kind name first origin)
  | none => .ok ((name, origin) :: taken)

/-- Types that the generated module declares or imports by itself. -/
def reservedTypes : List String := [
  "ReceivedMessage", "ReceivedHeader", "FieldTable", "FieldValue", "PrimitiveType", "Reader",
  "WireError"]

/-- What the functions of the two dispatchers are called behind their verbs. -/
def reservedStems : List String := ["method", "header"]

/-- The names taken in the generated module. -/
structure ModuleNames where
  types : TakenNames
  functions : TakenNames

/-- The names taken before any class is looked at. -/
def ModuleNames.reserved : ModuleNames where
  types := reservedTypes.map (·, "the generated module")
  functions := reservedStems.map (·, "the dispatchers")

/-- Refuses fields of one list that share an identifier or a key. -/
def checkFieldNames (owner : String) :
    (identifiers keys : TakenNames) → List String → Except Error Unit
  | _, _, [] => .ok ()
  | identifiers, keys, name :: rest => do
    let origin := owner ++ "." ++ name
    let identifiers ← identifiers.claim .field (Identifier.snake name) origin
    let keys ← keys.claim .fieldKey (Identifier.lowerCamel name) origin
    checkFieldNames owner identifiers keys rest

/-- Takes the names generated for a method. -/
def claimMethod (c : Class) (taken : ModuleNames) (m : Method) : Except Error ModuleNames := do
  let origin := c.name ++ "." ++ m.name
  let type := Identifier.methodTypeName c.name m.name
  let types ← taken.types.claim .type (type ++ "Args") origin
  let types ← types.claim .type type origin
  let functions ← taken.functions.claim .function (Identifier.methodStem c.name m.name) origin
  checkFieldNames origin [] [] (m.arguments.map (·.name))
  return ⟨types, functions⟩

/-- Takes the names generated for a class and its methods. -/
def claimClass (taken : ModuleNames) (c : Class) : Except Error ModuleNames := do
  let type := Identifier.typeName c.name
  let types ← taken.types.claim .type (type ++ "Properties") c.name
  let types ← types.claim .type (type ++ "Header") c.name
  let functions ← taken.functions.claim .function (Identifier.headerStem c.name) c.name
  checkFieldNames c.name [] [] (c.properties.map (·.name))
  c.methods.foldlM (claimMethod c) ⟨types, functions⟩

/-- Refuses constants that share a spelling. -/
def checkConstants : (taken : TakenNames) → List Constant → Except Error Unit
  | _, [] => .ok ()
  | taken, c :: rest => do
    checkConstants (← taken.claim .constant (Identifier.constant c.name) c.name) rest

/-- Refuses a model with two generated names that clash. -/
def checkCollisions (model : Model) : Except Error Unit := do
  checkConstants [] model.constants
  let _ ← model.classes.foldlM claimClass .reserved
  return ()

/-! ## Numbers and answers -/

/-- Refuses a method number used before in the class. -/
def checkMethodIds (className : String) :
    (taken : List (UInt16 × String)) → List Method → Except Error Unit
  | _, [] => .ok ()
  | taken, m :: rest =>
    match taken.lookup m.id with
    | some first => .error (.duplicateMethodId className m.id first m.name)
    | none => checkMethodIds className ((m.id, m.name) :: taken) rest

/-- Whether a method's answer, if it has one, is a method of the class. -/
def Class.knowsResponse (c : Class) (m : Method) : Bool :=
  match m.response with
  | some response => c.methods.any (·.name == response)
  | none => true

/-- Refuses an answer that is no method of the class. -/
def checkResponses (c : Class) : Except Error Unit :=
  match c.methods.find? (!c.knowsResponse ·) with
  | some m => .error (.unknownResponse c.name m.name (m.response.getD ""))
  | none => .ok ()

/-- Refuses a class number used before, then looks into each class. -/
def checkIds : (taken : List (UInt16 × String)) → List Class → Except Error Unit
  | _, [] => .ok ()
  | taken, c :: rest =>
    match taken.lookup c.id with
    | some first => .error (.duplicateClassId c.id first c.name)
    | none => do
      checkMethodIds c.name [] c.methods
      checkResponses c
      checkIds ((c.id, c.name) :: taken) rest

/-! ## Arguments -/

/-- The kind of an argument: as written, or what its domain stands for. -/
def Model.resolve (model : Model) (argument : Argument) : Except Error Primitive :=
  match argument.type with
  | .explicit primitive => .ok primitive
  | .byDomain domain =>
    match model.domain? domain with
    | some primitive => .ok primitive
    | none => .error (.unknownDomain domain argument.name)

/-- Refuses an argument without a kind, or with a default that does not fit its kind. -/
def checkArgument (model : Model) (c : Class) (m : Method) (a : Argument) : Except Error Unit := do
  let primitive ← model.resolve a
  match a.default with
  | some d =>
    if d.fits primitive then return ()
    else throw (.incompatibleDefault (c.name ++ "." ++ m.name ++ "." ++ a.name) primitive.name)
  | none => return ()

/-- Refuses the first argument that does not pass. -/
def checkArguments (model : Model) : Except Error Unit :=
  model.classes.forM fun c => c.methods.forM fun m => m.arguments.forM (checkArgument model c m)

/-! ## The check as a whole -/

/-- **The check of a model**, from its domains to its arguments. -/
def Model.check (model : Model) : Except Error Unit := do
  checkDomains [] model.domains
  checkNames model.names
  checkCollisions model
  checkIds [] model.classes
  checkArguments model

end FrameSchema.Schema

namespace FrameSchema

/-- A model that passes its check. -/
structure Schema extends Schema.Model where
  checked : toModel.check = .ok ()

/-- The schema of a model, if it passes. -/
def Schema.ofModel (model : Schema.Model) : Except Schema.Error Schema :=
  match h : model.check with
  | .ok () => .ok ⟨model, h⟩
  | .error cause => .error cause

end FrameSchema
