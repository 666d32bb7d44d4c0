import FrameSchema.Layout
import FrameSchema.Wire.Extraction
import FrameSchema.Wire.FieldList
import FrameSchema.Wire.OptionalFieldList

/-!
# Codec — encoding and decoding frames straight from a schema

A `Codec` finds the layout of a frame by the numbers on the wire or by the method's name
(`class.method`), and writes and reads the frame field by field.  Values go by the keys of their
fields; keys that are no field's are ignored.

* A method frame is the class number, the method number and the field list.
* A header frame is the class number, a weight that is written as zero and ignored when read, the
  size of the body and the optional field list.

Encoding a method puts declared defaults in for arguments that are left out.  Decoding adds nothing,
and octets behind a frame are left alone.
-/

namespace FrameSchema

/-- Field values by key. -/
abbrev Arguments := Wire.Table

namespace Codec

/-- Why a frame cannot be encoded or decoded. -/
inductive Error where
  | wire (cause : Wire.Error)
  | unknownMethodName (name : String)
  /-- The argument as `class.method.key`. -/
  | missingArgument (argument : String)
  | typeMismatch (key : String) (expected found : Primitive)
  deriving DecidableEq, Repr

/-- The wording of a cause. -/
def Error.message : Error → String
  | wire cause => cause.message
  | unknownMethodName name => s!"Unknown method: {name}"
  | missingArgument argument => s!"Missing argument: {argument}"
  | typeMismatch key expected found =>
    s!"Field {key}: expected {expected.name}, found {found.name}"

/-- A decoded method frame. -/
structure Message where
  classId : UInt16
  methodId : UInt16
  name : String
  values : Arguments
  deriving DecidableEq

/-- A decoded header frame; absent properties have no key. -/
structure Header where
  classId : UInt16
  bodySize : UInt64
  properties : Arguments
  deriving DecidableEq

end Codec

/-- The layouts of all frames of a schema. -/
structure Codec where
  methods : List Layout.Method
  headers : List Layout.Header
  deriving DecidableEq, Repr

namespace Codec

/-- The codec of a schema. -/
def ofSchema (schema : Schema) : Except Schema.Error Codec :=
  return ⟨← Layout.methods schema.toModel, Layout.headers schema.toModel⟩

/-! ## Finding layouts -/

/-- The layout of a method by its numbers. -/
def method? (codec : Codec) (classId methodId : UInt16) : Option Layout.Method :=
  codec.methods.find? fun m => m.classId == classId && m.methodId == methodId

/-- The layout of a method by its name. -/
def methodByName? (codec : Codec) (name : String) : Option Layout.Method :=
  codec.methods.find? (·.displayName == name)

/-- The layout of a class's header. -/
def header? (codec : Codec) (classId : UInt16) : Option Layout.Header :=
  codec.headers.find? (·.classId == classId)

/-- The layout of a method by its numbers, or which of the two is unknown. -/
def method (codec : Codec) (classId methodId : UInt16) : Except Wire.Error Layout.Method :=
  match codec.method? classId methodId with
  | some m => .ok m
  | none =>
    if (codec.header? classId).isSome then .error (.unknownMethod classId methodId)
    else .error (.unknownClass classId)

/-- The layout of a class's header; the class may be unknown. -/
def header (codec : Codec) (classId : UInt16) : Except Wire.Error Layout.Header :=
  match codec.header? classId with
  | some h => .ok h
  | none => .error (.unknownClass classId)

/-! ## Encoding -/

/-- A value that has to be of a kind. -/
def checkKind (key : String) (expected : Primitive) (value : Wire.Value) :
    Except Error Wire.Value :=
  if value.primitive = expected then .ok value
  else .error (.typeMismatch key expected value.primitive)

/-- The value of a method's field: the argument, or else its default. -/
def fieldValue (m : Layout.Method) (args : Arguments) (f : Layout.Field) :
    Except Error Wire.Value :=
  match args.get? f.key, f.default with
  | some value, _ => checkKind f.key f.primitive value
  | none, some d => .ok (d.value f.primitive)
  | none, none => .error (.missingArgument (m.displayName ++ "." ++ f.key))

/-- The value of a property, if there is one. -/
def propertyValue (properties : Arguments) (f : Layout.Field) :
    Except Error (Option Wire.Value) :=
  match properties.get? f.key with
  | some value => some <$> checkKind f.key f.primitive value
  | none => .ok none

/-- The frame of a method's layout. -/
def encodeLayout (m : Layout.Method) (args : Arguments) : Except Error Octets := do
  let values ← m.fields.mapM (fieldValue m args)
  let body ← (Wire.writeFields values).toExcept.mapError .wire
  return Octets.bigEndian 2 m.classId.toNat ++ Octets.bigEndian 2 m.methodId.toNat ++ body

/-- The frame of a method by its name. -/
def encodeMethod (codec : Codec) (name : String) (args : Arguments) : Except Error Octets :=
  match codec.methodByName? name with
  | some m => encodeLayout m args
  | none => .error (.unknownMethodName name)

/-- The frame of a method by its numbers. -/
def encodeMethodById (codec : Codec) (classId methodId : UInt16) (args : Arguments) :
    Except Error Octets := do
  encodeLayout (← (codec.method classId methodId).mapError .wire) args

/-- The header frame of a class. -/
def encodeHeader (codec : Codec) (classId : UInt16) (bodySize : UInt64)
    (properties : Arguments) : Except Error Octets := do
  let h ← (codec.header classId).mapError .wire
  let values ← h.fields.mapM (propertyValue properties)
  let body ← (Wire.writeOptionalFields values).toExcept.mapError .wire
  return Octets.bigEndian 2 classId.toNat ++ Octets.bigEndian 2 0 ++
    Octets.bigEndian 8 bodySize.toNat ++ body

/-! ## Decoding -/

/-- Values by the keys of their fields. -/
def keyed (fields : List Layout.Field) (values : List Wire.Value) : Arguments :=
  Wire.Table.ofList ((fields.map (·.key)).zip values)

/-- Present values by the keys of their fields. -/
def keyedPresent (fields : List Layout.Field) (values : List (Option Wire.Value)) : Arguments :=
  Wire.Table.ofList (((fields.map (·.key)).zip values).filterMap fun (key, value) =>
    value.map (key, ·))

/-- Reads a method frame. -/
def readMethod (codec : Codec) : Wire.Read Message := do
  let classId ← Wire.readShort
  let methodId ← Wire.readShort
  let m ← MonadExcept.ofExcept (codec.method classId methodId)
  let values ← Wire.readFields m.types
  return ⟨classId, methodId, m.displayName, keyed m.fields values⟩

/-- Reads a header frame. -/
def readHeader (codec : Codec) : Wire.Read Header := do
  let classId ← Wire.readShort
  let h ← MonadExcept.ofExcept (codec.header classId)
  let _weight ← Wire.readShort
  let bodySize ← Wire.readLonglong
  let values ← Wire.readOptionalFields h.types
  return ⟨classId, bodySize, keyedPresent h.fields values⟩

/-- What a reading operation gives on all octets. -/
def runOn {α : Type} (read : Wire.Read α) (octets : Octets) : Except Error α :=
  match read (Wire.Reader.ofOctets octets) with
  | .ok result _ => .ok result
  | .error cause _ => .error (.wire cause)

/-- The message of a method frame. -/
def decodeMethod (codec : Codec) (octets : Octets) : Except Error Message :=
  runOn codec.readMethod octets

/-- The header of a header frame. -/
def decodeHeader (codec : Codec) (octets : Octets) : Except Error Header :=
  runOn codec.readHeader octets

end Codec

end FrameSchema
