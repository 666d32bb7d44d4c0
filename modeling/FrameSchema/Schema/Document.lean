import FrameSchema.Json.Record
import FrameSchema.Schema.Check

/-!
# Schema/Document — schemas written as JSON documents

A document is first read into records that hold what was written (`Document.ofText`), then turned
into a model (`Document.toModel`), which has to pass its check.  A type written out wins over a
domain; kinds of properties are settled here, those of arguments by the model, and both look domains
up by name.
-/

namespace FrameSchema.Schema

/-! ## Written records -/

/-- An argument or a property, as written. -/
structure WrittenField where
  name : String
  type : Option String
  domain : Option String
  default : Option Json.Value

/-- A method, as written. -/
structure WrittenMethod where
  id : UInt16
  name : String
  arguments : List WrittenField
  synchronous : Bool
  response : Option String
  content : Bool

/-- A class, as written. -/
structure WrittenClass where
  id : UInt16
  name : String
  methods : List WrittenMethod
  properties : List WrittenField

/-- A schema, as written; domains are pairs of a name and a kind's name. -/
structure Document where
  classes : List WrittenClass
  domains : List (String × String)
  constants : List Constant

/-! ## Reading -/

/-- A class or method number. -/
def readId : Json.Scan UInt16 := return UInt16.ofInt (← Json.readInteger 0 65535)

/-- A constant, whose value has 64 bits and a sign. -/
def readConstant : (levels : Nat) → Json.Scan Constant :=
  Json.readRecord (fun _ => [
    .needed "name" Json.readText fun c name => { c with name },
    .needed "value" (Json.readInteger Int64.minValue.toInt Int64.maxValue.toInt) fun c value =>
      { c with value := Int64.ofInt value },
    .optional "class" (Json.readOptional Json.readText) fun c className => { c with className }])
  ⟨"", 0, none⟩

/-- An argument or a property. -/
def readField : (levels : Nat) → Json.Scan WrittenField :=
  Json.readRecord (fun levels => [
    .needed "name" Json.readText fun f name => { f with name },
    .optional "type" (Json.readOptional Json.readText) fun f type => { f with type },
    .optional "domain" (Json.readOptional Json.readText) fun f domain => { f with domain },
    .optional "default-value" (Json.readOptional (Json.readValue levels)) fun f default =>
      { f with default }])
  ⟨"", none, none, none⟩

/-- A method. -/
def readMethod : (levels : Nat) → Json.Scan WrittenMethod :=
  Json.readRecord (fun levels => [
    .needed "id" readId fun m id => { m with id },
    .needed "name" Json.readText fun m name => { m with name },
    .optional "arguments" (Json.readList readField levels) fun m arguments =>
      { m with arguments },
    .optional "synchronous" Json.readBool fun m synchronous => { m with synchronous },
    .optional "response" (Json.readOptional Json.readText) fun m response =>
      { m with response },
    .optional "content" Json.readBool fun m content => { m with content }])
  ⟨0, "", [], false, none, false⟩

/-- A class. -/
def readClass : (levels : Nat) → Json.Scan WrittenClass :=
  Json.readRecord (fun levels => [
    .needed "id" readId fun c id => { c with id },
    .needed "name" Json.readText fun c name => { c with name },
    .optional "methods" (Json.readList readMethod levels) fun c methods => { c with methods },
    .optional "properties" (Json.readList readField levels) fun c properties =>
      { c with properties }])
  ⟨0, "", [], []⟩

/-- A name and a kind's name, in a list of two. -/
def domainPair? : Json.Value → Option (String × String)
  | .list [.string name, .string kind] => some (name, kind)
  | _ => none

/-- A list of pairs, or a single pair. -/
def domainPairs? : Json.Value → Option (List (String × String))
  | .list items =>
    match items.mapM domainPair? with
    | some pairs => some pairs
    | none => (domainPair? (.list items)).map ([·])
  | _ => none

/-- The domains, in either spelling. -/
def readDomains (levels : Nat) : Json.Scan (List (String × String)) := do
  match domainPairs? (← Json.readValue levels) with
  | some pairs => return pairs
  | none => throw .misshapen

/-- How many brackets may be open at once in what is kept of a document. -/
def maxBrackets : Nat := 127

/-- A document. -/
def readDocument : Json.Scan Document :=
  Json.readRecord (fun levels => [
    .optional "classes" (Json.readList readClass levels) fun d classes => { d with classes },
    .optional "domains" (readDomains levels) fun d domains => { d with domains },
    .optional "constants" (Json.readList readConstant levels) fun d constants =>
      { d with constants }])
  ⟨[], [], []⟩ maxBrackets

/-- The document of a text. -/
def Document.ofText (text : String) : Except Json.Fault Document :=
  Json.readWhole readDocument text

/-! ## From records to a model -/

/-- The kind of a name. -/
def primitiveOfName (name : String) : Except Error Primitive :=
  match Primitive.ofName? name with
  | some primitive => .ok primitive
  | none => .error (.unknownPrimitive name)

/-- The domain of a written pair. -/
def domainOfPair (pair : String × String) : Except Error Domain :=
  return ⟨pair.1, ← primitiveOfName pair.2⟩

/-- The kind of a domain; of two domains with one name the later counts, until the check refuses
both. -/
def lastDomain? (domains : List Domain) (name : String) : Option Primitive :=
  (domains.reverse.find? (·.name == name)).map (·.primitive)

/-- The default that a value stands for; an integer has to have room in 64 bits and a sign. -/
def defaultOfValue (argument : String) : Json.Value → Except Error Default
  | .bool b => .ok (.bool b)
  | .number (.integer n) =>
    if Int64.minValue.toInt ≤ n ∧ n ≤ Int64.maxValue.toInt then .ok (.int (Int64.ofInt n))
    else .error (.incompatibleDefault argument "integer")
  | .number .real => .error (.incompatibleDefault argument "integer")
  | .string s => .ok (.str s)
  | .object [] => .ok .emptyTable
  | _ => .error (.incompatibleDefault argument "literal")

namespace WrittenField

/-- The property of a record of a class. -/
def toProperty (domains : List Domain) (className : String) (field : WrittenField) :
    Except Error Property :=
  match field.type, field.domain with
  | some type, _ => return ⟨field.name, ← primitiveOfName type⟩
  | none, some domain =>
    match lastDomain? domains domain with
    | some primitive => .ok ⟨field.name, primitive⟩
    | none => .error (.unknownDomain domain field.name)
  | none, none => .error (.unresolvedType className "properties" field.name)

/-- The type of an argument of a method. -/
def toArgumentType (className methodName : String) (field : WrittenField) :
    Except Error ArgumentType :=
  match field.type, field.domain with
  | some type, _ => return .explicit (← primitiveOfName type)
  | none, some domain => .ok (.byDomain domain)
  | none, none => .error (.unresolvedType className methodName field.name)

/-- The default of an argument; a missing one may be written as `null`. -/
def toDefault (field : WrittenField) : Except Error (Option Default) :=
  match field.default with
  | none | some .null => .ok none
  | some value => some <$> defaultOfValue field.name value

/-- The argument of a record of a method. -/
def toArgument (className methodName : String) (field : WrittenField) : Except Error Argument := do
  let type ← field.toArgumentType className methodName
  return ⟨field.name, type, ← field.toDefault⟩

end WrittenField

/-- The method of a record of a class. -/
def WrittenMethod.toMethod (className : String) (m : WrittenMethod) : Except Error Method := do
  let arguments ← m.arguments.mapM (·.toArgument className m.name)
  return { m with arguments }

/-- The class of a record; properties are settled before methods. -/
def WrittenClass.toClass (domains : List Domain) (c : WrittenClass) : Except Error Class := do
  let properties ← c.properties.mapM (·.toProperty domains c.name)
  let methods ← c.methods.mapM (·.toMethod c.name)
  return { c with methods, properties }

/-- **The model of a document**: domains first, then class by class. -/
def Document.toModel (document : Document) : Except Error Model := do
  let domains ← document.domains.mapM domainOfPair
  let classes ← document.classes.mapM (·.toClass domains)
  return ⟨classes, domains, document.constants⟩

end FrameSchema.Schema
