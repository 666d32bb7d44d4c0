import FrameSchema.Primitive

/-!
# Schema/Model — what a protocol schema says

A protocol is a list of classes, each with methods and with the properties of its header frame.
Method arguments are typed directly or through a domain, a named kind; constants are numbers with a
name.  A `Model` is such a description as written, before any check: `Schema/Check` says which
models make sense together.
-/

namespace FrameSchema.Schema

/-- A name for a kind. -/
structure Domain where
  name : String
  primitive : Primitive
  deriving DecidableEq, Repr

/-- A named number; the class it is grouped under is only a remark. -/
structure Constant where
  name : String
  value : Int64
  className : Option String
  deriving DecidableEq, Repr

/-- A field of a class's header frame, always optional. -/
structure Property where
  name : String
  primitive : Primitive
  deriving DecidableEq, Repr

/-- How an argument names its kind. -/
inductive ArgumentType where
  | explicit (primitive : Primitive)
  | byDomain (domain : String)
  deriving DecidableEq, Repr

/-- The value of an argument that is left out. -/
inductive Default where
  | int (value : Int64)
  | bool (value : Bool)
  | str (value : String)
  | emptyTable
  deriving DecidableEq, Repr

/-- A field of a method frame. -/
structure Argument where
  name : String
  type : ArgumentType
  default : Option Default
  deriving DecidableEq, Repr

/-- A method of a class. -/
structure Method where
  id : UInt16
  name : String
  arguments : List Argument
  synchronous : Bool
  /-- The method of the same class that answers this one. -/
  response : Option String
  /-- Whether a header frame and a body follow. -/
  content : Bool
  deriving DecidableEq, Repr

/-- A class of methods. -/
structure Class where
  id : UInt16
  name : String
  methods : List Method
  properties : List Property
  deriving DecidableEq, Repr

/-- A description of a protocol. -/
structure Model where
  classes : List Class
  domains : List Domain
  constants : List Constant
  deriving DecidableEq, Repr

namespace Class

/-- The method of a name. -/
def method? (c : Class) (name : String) : Option Method := c.methods.find? (·.name == name)

/-- The method of a number. -/
def methodById? (c : Class) (id : UInt16) : Option Method := c.methods.find? (·.id == id)

end Class

namespace Model

/-- The kind a domain stands for. -/
def domain? (model : Model) (name : String) : Option Primitive :=
  (model.domains.find? (·.name == name)).map (·.primitive)

/-- The class of a name. -/
def class? (model : Model) (name : String) : Option Class :=
  model.classes.find? (·.name == name)

/-- The class of a number. -/
def classById? (model : Model) (id : UInt16) : Option Class :=
  model.classes.find? (·.id == id)

/-- The number of methods of all classes. -/
def methodCount (model : Model) : Nat := (model.classes.flatMap (·.methods)).length

end Model

end FrameSchema.Schema
