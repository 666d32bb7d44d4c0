import FrameSchema.Schema.Model

/-!
# Bindings/Declaration — what a file of generated code declares

The declarations are kept as data, down to what each function does: `Body` says which fields a
function writes or reads and which routes it takes, and `Bindings/Source` puts it into words.
-/

namespace FrameSchema.Bindings

/-- The type of a field of a record. -/
inductive FieldType where
  | stored (storage : Storage)
  | named (name : String)
  deriving DecidableEq, Repr

/-- A field of a record. -/
structure Field where
  name : String
  type : FieldType
  /-- Whether the field may be empty. -/
  isOptional : Bool
  /-- The default that is told in the field's comment. -/
  default : Option Schema.Default
  deriving DecidableEq, Repr

/-- The value of a constant that belongs to a type. -/
inductive ConstValue where
  | number (value : UInt16)
  | truth (value : Bool)
  deriving DecidableEq, Repr

/-- A constant that belongs to a type. -/
structure TypeConst where
  name : String
  value : ConstValue
  deriving DecidableEq, Repr

/-- A record type. -/
structure Record where
  name : String
  doc : List String
  derives : List String
  fields : List Field
  consts : List TypeConst
  deriving DecidableEq, Repr

/-- A variant of a union: one kind of frame. -/
structure Variant where
  name : String
  payload : String
  classId : UInt16
  methodId : Option UInt16
  label : String
  deriving DecidableEq, Repr

/-- The sum of all frames of one sort. -/
structure Union where
  name : String
  doc : List String
  derives : List String
  variants : List Variant
  /-- Whether a frame can be asked for its method number. -/
  hasMethodId : Bool
  deriving DecidableEq, Repr

/-- The conversion of one record into another, field by field; a marked field is wrapped. -/
structure Conversion where
  source : String
  target : String
  fields : List (String × Bool)
  deriving DecidableEq, Repr

/-- A field to be written; the default stands in where the argument is left out. -/
structure EncodeField where
  ident : String
  primitive : Primitive
  default : Option Schema.Default
  deriving DecidableEq, Repr

/-- A field to be read. -/
structure DecodeField where
  ident : String
  primitive : Primitive
  deriving DecidableEq, Repr

/-- From a number to the function that decodes the frame, and the variant it goes into. -/
structure Route where
  id : UInt16
  decoder : String
  variant : String
  deriving DecidableEq, Repr

/-- The routes for the methods of a class. -/
structure ClassRoute where
  classId : UInt16
  methods : List Route
  deriving DecidableEq, Repr

/-- What a function does. -/
inductive Body where
  | encodeMethod (argsType : String) (classId methodId : UInt16) (fields : List EncodeField)
  | encodeHeader (propertiesType : String) (classId : UInt16) (fields : List EncodeField)
  | decodeMethod (valueType : String) (fields : List DecodeField)
  | decodeHeader (headerType propertiesType : String) (fields : List DecodeField)
  | dispatchMethod (union : String) (classes : List ClassRoute)
  | dispatchHeader (union : String) (routes : List Route)
  deriving DecidableEq, Repr

/-- The kinds a function writes or reads, in order; dispatchers leave the fields to others. -/
def Body.fieldTypes : Body → Option (List Primitive)
  | encodeMethod _ _ _ fields | encodeHeader _ _ fields => some (fields.map (·.primitive))
  | decodeMethod _ fields | decodeHeader _ _ fields => some (fields.map (·.primitive))
  | dispatchMethod .. | dispatchHeader .. => none

/-- A function. -/
structure Function where
  name : String
  doc : List String
  body : Body
  deriving DecidableEq, Repr

/-- A constant of the module. -/
structure Constant where
  name : String
  value : Int64
  className : Option String
  deriving DecidableEq, Repr

/-- A declaration. -/
inductive Item where
  | record (r : Record)
  | union (u : Union)
  | conversion (c : Conversion)
  | function (f : Function)
  | constant (c : Constant)
  deriving DecidableEq, Repr

/-- A file of generated code. -/
structure Module where
  /-- Where the field codec is imported from. -/
  runtimePath : String
  items : List Item
  deriving DecidableEq, Repr

namespace Module

/-- The records, in order. -/
def records (m : Module) : List Record := m.items.filterMap fun | .record r => some r | _ => none

/-- The unions, in order. -/
def unions (m : Module) : List Union := m.items.filterMap fun | .union u => some u | _ => none

/-- The functions, in order. -/
def functions (m : Module) : List Function :=
  m.items.filterMap fun | .function f => some f | _ => none

/-- The constants, in order. -/
def constants (m : Module) : List Constant :=
  m.items.filterMap fun | .constant c => some c | _ => none

/-- The first record of a name. -/
def record? (m : Module) (name : String) : Option Record := m.records.find? (·.name == name)

/-- The first union of a name. -/
def union? (m : Module) (name : String) : Option Union := m.unions.find? (·.name == name)

/-- The first function of a name. -/
def function? (m : Module) (name : String) : Option Function :=
  m.functions.find? (·.name == name)

end Module

end FrameSchema.Bindings
