import FrameSchema.Bindings.Functions
import FrameSchema.Wire.Extraction
import FrameSchema.Wire.FieldList
import FrameSchema.Wire.OptionalFieldList

/-!
# Proofs/Bindings/Execution — what the functions of a generated module do

A module is data; here it is run.  An encoder writes the fields of a record, found by their
identifiers.  A decoder reads the kinds of its fields and takes the values one by one, each in the
type that generated code stores it in.  A dispatcher reads the numbers in front of a frame, follows
its routes and calls a decoder of the module by name.
-/

namespace FrameSchema.Bindings

/-! ## Encoders -/

/-- The fields of a record by identifier; a field that is left empty has no entry. -/
abbrev Assignment := Wire.Table

/-- What an encoder writes for a field: what is assigned to it, or else what its default stands
for. -/
def EncodeField.value? (assigned : Assignment) (f : EncodeField) : Option Wire.Value :=
  (assigned.get? f.ident).or (f.default.map (·.value f.primitive))

/-- Runs the encoder of a method.  No record leaves a field without a default empty, so nothing is
said of that. -/
def runMethodEncoder (classId methodId : UInt16) (fields : List EncodeField)
    (assigned : Assignment) : Option (Except Wire.Error Octets) := do
  let values ← fields.mapM (·.value? assigned)
  return do
    let body ← (Wire.writeFields values).toExcept
    return Octets.bigEndian 2 classId.toNat ++ Octets.bigEndian 2 methodId.toNat ++ body

/-- Runs the encoder of a header. -/
def runHeaderEncoder (classId : UInt16) (fields : List EncodeField) (bodySize : UInt64)
    (assigned : Assignment) : Except Wire.Error Octets := do
  let body ← (Wire.writeOptionalFields (fields.map fun f => assigned.get? f.ident)).toExcept
  return Octets.bigEndian 2 classId.toNat ++ Octets.bigEndian 2 0 ++
    Octets.bigEndian 8 bodySize.toNat ++ body

/-! ## Running a decoder -/

/-- Why generated code stops: the frame is at fault, or a function is called that the module does
not have. -/
inductive Halt where
  | wire (cause : Wire.Error)
  | missing (function : String)

/-- A computation of generated code over a reader. -/
abbrev Run := EStateM Halt Wire.Reader

/-- A step that generated code leaves to the field codec. -/
def reading {α : Type} (read : Wire.Read α) : Run α := read.adaptExcept .wire

/-- Runs a computation on all octets. -/
def Run.on {α : Type} (run : Run α) (octets : Octets) : Except Halt α :=
  match run (Wire.Reader.ofOctets octets) with
  | .ok result _ => .ok result
  | .error halt _ => .error halt

/-! ## Decoders -/

/-- A value in the type that generated code stores it in. -/
structure Stored where
  storage : Storage
  value : Wire.StoredValue storage

/-- What is stored of a value. -/
def Stored.ofValue (value : Wire.Value) : Stored := ⟨value.primitive.storage, value.payload⟩

/-- Takes one value for each field, in the type in which its kind is stored. -/
def takeFields : List DecodeField → Wire.Fields Wire.Value →
    Except Wire.Error (List (String × Stored))
  | [], _ => .ok []
  | f :: fields, values => do
    let (first, values) := values.take (.stored f.primitive.storage)
    let first ← first
    let rest ← takeFields fields values
    return (f.ident, ⟨_, first⟩) :: rest

/-- Takes one optional value for each field, in the type in which its kind is stored. -/
def takeOptionalFields : List DecodeField → Wire.Fields (Option Wire.Value) →
    Except Wire.Error (List (String × Option Stored))
  | [], _ => .ok []
  | f :: fields, values => do
    let (first, values) := values.takeOptional (.stored f.primitive.storage)
    let first ← first
    let rest ← takeOptionalFields fields values
    return (f.ident, first.map (⟨_, ·⟩)) :: rest

/-- The record of a method's full value. -/
structure MethodValue where
  type : String
  fields : List (String × Stored)

/-- The record of a header frame, with the record of its properties. -/
structure HeaderValue where
  type : String
  bodySize : UInt64
  propertiesType : String
  properties : List (String × Option Stored)

/-- Runs the decoder of a method, behind the numbers of the frame. -/
def runMethodDecoder (type : String) (fields : List DecodeField) : Run MethodValue := do
  let values ← reading (Wire.readFields (fields.map (·.primitive)))
  let fields ← reading (MonadExcept.ofExcept (takeFields fields (.ofList values)))
  return ⟨type, fields⟩

/-- Runs the decoder of a header, behind the class number of the frame. -/
def runHeaderDecoder (type propertiesType : String) (fields : List DecodeField) :
    Run HeaderValue := do
  let _weight ← reading Wire.readShort
  let bodySize ← reading Wire.readLonglong
  let values ← reading (Wire.readOptionalFields (fields.map (·.primitive)))
  let properties ← reading (MonadExcept.ofExcept (takeOptionalFields fields (.ofList values)))
  return ⟨type, bodySize, propertiesType, properties⟩

/-! ## Dispatchers -/

/-- A record in a variant of a union. -/
structure Frame (α : Type) where
  union : String
  variant : String
  payload : α

namespace Module

/-- What the function of a name does. -/
def body? (module : Module) (name : String) : Option Body := (module.function? name).map (·.body)

/-- Calls the decoder of a method by its name. -/
def callMethodDecoder (module : Module) (name : String) : Run MethodValue :=
  match module.body? name with
  | some (.decodeMethod type fields) => runMethodDecoder type fields
  | _ => throw (.missing name)

/-- Calls the decoder of a header by its name. -/
def callHeaderDecoder (module : Module) (name : String) : Run HeaderValue :=
  match module.body? name with
  | some (.decodeHeader type propertiesType fields) => runHeaderDecoder type propertiesType fields
  | _ => throw (.missing name)

/-- Runs the dispatcher of method frames: by class, then by method. -/
def runMethodDispatcher (module : Module) (union : String) (classes : List ClassRoute) :
    Run (Frame MethodValue) := do
  let classId ← reading Wire.readShort
  let methodId ← reading Wire.readShort
  match classes.find? (·.classId == classId) with
  | none => throw (.wire (.unknownClass classId))
  | some c =>
    match c.methods.find? (·.id == methodId) with
    | none => throw (.wire (.unknownMethod classId methodId))
    | some route => return ⟨union, route.variant, ← module.callMethodDecoder route.decoder⟩

/-- Runs the dispatcher of header frames. -/
def runHeaderDispatcher (module : Module) (union : String) (routes : List Route) :
    Run (Frame HeaderValue) := do
  let classId ← reading Wire.readShort
  match routes.find? (·.id == classId) with
  | none => throw (.wire (.unknownClass classId))
  | some route => return ⟨union, route.variant, ← module.callHeaderDecoder route.decoder⟩

/-- What the module's `decode_method` makes of a frame. -/
def decodeMethod (module : Module) (octets : Octets) : Except Halt (Frame MethodValue) :=
  match module.body? "decode_method" with
  | some (.dispatchMethod union classes) => (module.runMethodDispatcher union classes).on octets
  | _ => .error (.missing "decode_method")

/-- What the module's `decode_header` makes of a frame. -/
def decodeHeader (module : Module) (octets : Octets) : Except Halt (Frame HeaderValue) :=
  match module.body? "decode_header" with
  | some (.dispatchHeader union routes) => (module.runHeaderDispatcher union routes).on octets
  | _ => .error (.missing "decode_header")

end Module

end FrameSchema.Bindings
