import FrameSchema.Bindings.Expression

/-!
# Bindings/Source — declarations as source text

A declaration is a list of lines, each with the depth it is indented to; a module is a heading and
its declarations, each behind an empty line.  Nothing else decides the layout: a text that holds
line breaks of its own is not indented anew.
-/

namespace FrameSchema.Bindings

/-- A line of source text. -/
structure Line where
  depth : Nat
  text : String
  deriving DecidableEq, Repr

namespace Line

/-- The line without text. -/
def empty : Line := ⟨0, ""⟩

/-- The line with its indentation, four blanks a level, and its end. -/
def render (line : Line) : String :=
  String.ofList (List.replicate (4 * line.depth) ' ') ++ line.text ++ "\n"

end Line

/-- The text of some lines. -/
def renderLines (lines : List Line) : String := String.join (lines.map Line.render)

/-- Lines at one depth. -/
def block (depth : Nat) (texts : List String) : List Line := texts.map (⟨depth, ·⟩)

/-! ## Parts -/

/-- Comments in front of a declaration. -/
def docLines (depth : Nat) (doc : List String) : List Line := block depth (doc.map ("/// " ++ ·))

/-- The traits derived for a type. -/
def deriveLines (derives : List String) : List Line :=
  if derives.isEmpty then [] else [⟨0, "#[derive(" ++ ", ".intercalate derives ++ ")]"⟩]

/-- A default, as a comment tells it. -/
def defaultText : Schema.Default → String
  | .int v => numberLiteral v
  | .bool b => truthLiteral b
  | .str s => Text.quote s
  | .emptyTable => "\x7b\x7d"

/-- A declaration of a constant. -/
def constText (name type value : String) : String :=
  "pub const " ++ name ++ ": " ++ type ++ " = " ++ value ++ ";"

/-! ## Constants and types -/

/-- A constant of the module; one that 32 bits hold without a sign has an unsigned type. -/
def Constant.lines (c : Constant) : List Line :=
  (match c.className with
    | some className => [⟨0, s!"/// Class: `{className}`."⟩]
    | none => []) ++
  [⟨0, constText c.name (if 0 ≤ c.value && c.value ≤ 0xffffffff then "u32" else "i64")
    (numberLiteral c.value)⟩]

/-- The type of a field. -/
def Field.typeText (f : Field) : String :=
  let base :=
    match f.type with
    | .stored storage => storage.rustType
    | .named name => name
  if f.isOptional then "Option<" ++ base ++ ">" else base

/-- A field of a record. -/
def Field.lines (f : Field) : List Line :=
  (match f.default with
    | some d => [⟨1, s!"/// Default: `{defaultText d}`."⟩]
    | none => []) ++
  [⟨1, s!"pub {f.name}: {f.typeText},"⟩]

/-- A constant that belongs to a type. -/
def TypeConst.line (c : TypeConst) : Line :=
  match c.value with
  | .number v => ⟨1, constText c.name "u16" (toString v.toNat)⟩
  | .truth b => ⟨1, constText c.name "bool" (truthLiteral b)⟩

/-- A record type, and the constants that belong to it. -/
def Record.lines (r : Record) : List Line :=
  docLines 0 r.doc ++ deriveLines r.derives ++
  (if r.fields.isEmpty then [⟨0, "pub struct " ++ r.name ++ " \x7b\x7d"⟩]
    else ⟨0, "pub struct " ++ r.name ++ " \x7b"⟩ :: r.fields.flatMap Field.lines ++
      [⟨0, "\x7d"⟩]) ++
  (if r.consts.isEmpty then []
    else [.empty, ⟨0, "impl " ++ r.name ++ " \x7b"⟩] ++ r.consts.map TypeConst.line ++
      [⟨0, "\x7d"⟩])

/-- A function of a union that gives one text for each variant. -/
def Union.accessor (u : Union) (name type : String) (value : Variant → String) : List Line :=
  [⟨1, "pub fn " ++ name ++ "(&self) -> " ++ type ++ " \x7b"⟩, ⟨2, "match *self \x7b"⟩] ++
  u.variants.map (fun v => ⟨3, u.name ++ "::" ++ v.name ++ "(_) => " ++ value v ++ ","⟩) ++
  [⟨2, "\x7d"⟩, ⟨1, "\x7d"⟩]

/-- A union, and what a frame in it can be asked for. -/
def Union.lines (u : Union) : List Line :=
  docLines 0 u.doc ++ deriveLines u.derives ++
  [⟨0, "pub enum " ++ u.name ++ " \x7b"⟩] ++
  u.variants.map (fun v => ⟨1, v.name ++ "(" ++ v.payload ++ "),"⟩) ++
  [⟨0, "\x7d"⟩, .empty, ⟨0, "impl " ++ u.name ++ " \x7b"⟩] ++
  u.accessor "class_id" "u16" (fun v => toString v.classId.toNat) ++
  (if u.hasMethodId then
    .empty :: u.accessor "method_id" "u16" fun v => toString (v.methodId.getD 0).toNat
  else []) ++
  [.empty] ++ u.accessor "name" "&'static str" (fun v => Text.quote v.label) ++
  [⟨0, "\x7d"⟩]

/-- A field of a conversion. -/
def conversionLine (field : String × Bool) : Line :=
  let (name, wrapped) := field
  ⟨3, if wrapped then s!"{name}: Some(value.{name})," else s!"{name}: value.{name},"⟩

/-- The conversion of one record into another. -/
def Conversion.lines (c : Conversion) : List Line :=
  [⟨0, "impl From<" ++ c.source ++ "> for " ++ c.target ++ " \x7b"⟩] ++
  (if c.fields.isEmpty then
    [⟨1, "fn from(_value: " ++ c.source ++ ") -> Self \x7b"⟩, ⟨2, c.target ++ " \x7b\x7d"⟩]
  else
    [⟨1, "fn from(value: " ++ c.source ++ ") -> Self \x7b"⟩, ⟨2, c.target ++ " \x7b"⟩] ++
      c.fields.map conversionLine ++ [⟨2, "\x7d"⟩]) ++
  [⟨1, "\x7d"⟩, ⟨0, "\x7d"⟩]

/-! ## Functions -/

/-- The first line of a function. -/
def signature (name parameters result : String) : Line :=
  ⟨0, "pub fn " ++ name ++ "(" ++ parameters ++ ") -> Result<" ++ result ++ ", WireError> \x7b"⟩

/-- A call that writes a list of values. -/
def valueListLines (call : String) (values : List String) : List Line :=
  if values.isEmpty then [⟨1, call ++ "(&mut buf, &[])?;"⟩]
  else
    [⟨1, call ++ "("⟩, ⟨2, "&mut buf,"⟩, ⟨2, "&["⟩] ++ values.map (fun v => ⟨3, v ++ ","⟩) ++
      [⟨2, "],"⟩, ⟨1, ")?;"⟩]

/-- A call that reads a list of kinds. -/
def typeListLines (call : String) (fields : List DecodeField) : List Line :=
  [⟨1, "let mut fields = " ++ call ++ "(&["⟩] ++
  fields.map (fun d => ⟨2, "PrimitiveType::" ++ d.primitive.variant ++ ","⟩) ++
  [⟨1, "])?;"⟩]

/-- Writing a number of sixteen bits. -/
def writeShortLine (value : String) : Line := ⟨1, "wire::write_short(&mut buf, " ++ value ++ ")?;"⟩

/-- A parameter that an encoder without fields does not use. -/
def parameter (isUsed : Bool) (name : String) : String := if isUsed then name else "_" ++ name

/-- The decoder call of a route, in its variant. -/
def Route.text (union : String) (r : Route) : String :=
  toString r.id.toNat ++ " => Ok(" ++ union ++ "::" ++ r.variant ++ "(" ++ r.decoder ++
    "(&mut reader)?)),"

/-- The failure for a method that the class does not define. -/
def unknownMethodText (pattern : String) : String :=
  pattern ++ " => Err(WireError::UnknownMethod(class_id, method_id)),"

/-- The routes of a class. -/
def ClassRoute.lines (union : String) (c : ClassRoute) : List Line :=
  if c.methods.isEmpty then [⟨2, unknownMethodText (toString c.classId.toNat)⟩]
  else
    [⟨2, toString c.classId.toNat ++ " => match method_id \x7b"⟩] ++
    block 3 (c.methods.map (Route.text union) ++ [unknownMethodText "_"]) ++
    [⟨2, "\x7d,"⟩]

/-- What a dispatcher starts with. -/
def openReaderLines : List Line :=
  block 1 ["let mut reader = Reader::new(bytes);", "let class_id = reader.read_short()?;"]

/-- What a dispatcher ends with. -/
def unknownClassLines : List Line :=
  [⟨2, "_ => Err(WireError::UnknownClass(class_id)),"⟩, ⟨1, "\x7d"⟩, ⟨0, "\x7d"⟩]

/-- A function's first line and what follows it. -/
def Body.lines (name : String) : Body → List Line
  | encodeMethod argsType classId methodId fields =>
    [signature name (parameter (!fields.isEmpty) "args" ++ ": &" ++ argsType) "Vec<u8>",
      ⟨1, "let mut buf = Vec::new();"⟩, writeShortLine (toString classId.toNat),
      writeShortLine (toString methodId.toNat)] ++
    valueListLines "wire::write_fields" (fields.map (encodeExpr "args")) ++
    [⟨1, "Ok(buf)"⟩, ⟨0, "\x7d"⟩]
  | encodeHeader propertiesType classId fields =>
    [signature name ("body_size: u64, " ++ parameter (!fields.isEmpty) "properties" ++ ": &" ++
        propertiesType) "Vec<u8>",
      ⟨1, "let mut buf = Vec::new();"⟩, writeShortLine (toString classId.toNat),
      writeShortLine "0", ⟨1, "wire::write_longlong(&mut buf, body_size)?;"⟩] ++
    valueListLines "wire::write_optional_fields" (fields.map optionalExpr) ++
    [⟨1, "Ok(buf)"⟩, ⟨0, "\x7d"⟩]
  | decodeMethod valueType fields =>
    [signature name "reader: &mut Reader<'_>" valueType] ++
    (if fields.isEmpty then
      block 1 ["reader.read_fields(&[])?;", "Ok(" ++ valueType ++ " \x7b\x7d)"]
    else
      typeListLines "reader.read_fields" fields ++ [⟨1, "Ok(" ++ valueType ++ " \x7b"⟩] ++
      fields.map (fun d => ⟨2, d.ident ++ ": fields.take()?,"⟩) ++ [⟨1, "\x7d)"⟩]) ++
    [⟨0, "\x7d"⟩]
  | decodeHeader headerType propertiesType fields =>
    [signature name "reader: &mut Reader<'_>" headerType,
      ⟨1, "let _weight = reader.read_short()?;"⟩,
      ⟨1, "let body_size = reader.read_longlong()?;"⟩] ++
    (if fields.isEmpty then
      [⟨1, "reader.read_optional_fields(&[])?;"⟩, ⟨1, "Ok(" ++ headerType ++ " \x7b"⟩,
        ⟨2, "body_size,"⟩, ⟨2, "properties: " ++ propertiesType ++ " \x7b\x7d,"⟩]
    else
      typeListLines "reader.read_optional_fields" fields ++
      [⟨1, "Ok(" ++ headerType ++ " \x7b"⟩, ⟨2, "body_size,"⟩,
        ⟨2, "properties: " ++ propertiesType ++ " \x7b"⟩] ++
      fields.map (fun d => ⟨3, d.ident ++ ": fields.take_optional()?,"⟩) ++ [⟨2, "\x7d,"⟩]) ++
    [⟨1, "\x7d)"⟩, ⟨0, "\x7d"⟩]
  | dispatchMethod union classes =>
    [signature name "bytes: &[u8]" union] ++ openReaderLines ++
    block 1 ["let method_id = reader.read_short()?;", "match class_id \x7b"] ++
    classes.flatMap (ClassRoute.lines union) ++ unknownClassLines
  | dispatchHeader union routes =>
    [signature name "bytes: &[u8]" union] ++ openReaderLines ++ [⟨1, "match class_id \x7b"⟩] ++
    block 2 (routes.map (Route.text union)) ++ unknownClassLines

/-! ## Declarations and modules -/

/-- The lines of a declaration. -/
def Item.lines : Item → List Line
  | record r => r.lines
  | union u => u.lines
  | conversion c => c.lines
  | function f => docLines 0 f.doc ++ f.body.lines f.name
  | constant c => c.lines

/-- The text of a declaration. -/
def Item.render (item : Item) : String := renderLines item.lines

/-- What stands above the declarations. -/
def headingLines (runtimePath : String) : List Line :=
  block 0 ["// Code generated by amqp-codegen. DO NOT EDIT.",
    "// Changes are lost when the file is regenerated from its schema.", "",
    "#[allow(unused_imports)]",
    "use " ++ runtimePath ++ "::\x7bself as wire, FieldTable, FieldValue, PrimitiveType, " ++
      "Reader, WireError\x7d;"]

/-- The lines of a module. -/
def Module.lines (m : Module) : List Line :=
  headingLines m.runtimePath ++ m.items.flatMap fun item => .empty :: item.lines

/-- **The source text of a module.** -/
def Module.render (m : Module) : String := renderLines m.lines

end FrameSchema.Bindings
