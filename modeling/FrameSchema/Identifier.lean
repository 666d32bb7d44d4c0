import FrameSchema.Text.Case

/-!
# Identifier — the spellings that schema names take in generated code

A schema name is a row of segments joined by `-` or `.`.  Everything derived from it starts from its
non-empty segments, so the way they are joined does not matter.

| form         | `queue-name` | stands for                       |
|--------------|--------------|----------------------------------|
| `lowerCamel` | `queueName`  | keys of decoded values           |
| `upperCamel` | `QueueName`  | types, behind `typeName`         |
| `constant`   | `QUEUE_NAME` | constants                        |
| `snake`      | `queue_name` | fields                           |
| `methodStem` |              | functions of a class's method    |

Forms that stand alone are escaped where the generated language would not take them: a leading
digit, a keyword, or the type name `Self`.
-/

namespace FrameSchema.Identifier

/-! ## Segments -/

/-- Whether a character joins segments. -/
def isDelimiter (c : Char) : Bool := c == '-' || c == '.'

/-- The non-empty pieces between delimiters. -/
def pieces (name : String) : List (List Char) :=
  (Text.splitPieces isDelimiter name.toList).filter fun piece => !piece.isEmpty

/-- The segments of a name. -/
def segments (name : String) : List String := (pieces name).map String.ofList

/-- The segments of a name, joined by underscores. -/
def joined (name : String) : List Char := List.intercalate ['_'] (pieces name)

/-- A segment with its first character in capitals. -/
def capitalize : List Char → List Char
  | [] => []
  | c :: cs => Text.upper c ++ cs

/-! ## Escapes -/

/-- Whether a word starts with a decimal digit. -/
def startsWithDigit : List Char → Bool
  | [] => false
  | c :: _ => c.isDigit

/-- Words that the generated language keeps for itself.  All may be raw identifiers but `crate`,
which is a keyword of paths as well. -/
def keywords : List String := [
  "as", "async", "await", "break", "const", "continue", "crate", "dyn", "else", "enum", "extern",
  "false", "fn", "for", "if", "impl", "in", "let", "loop", "match", "mod", "move", "mut", "pub",
  "ref", "return", "static", "struct", "trait", "true", "type", "unsafe", "use", "where", "while",
  "abstract", "become", "box", "do", "final", "macro", "override", "priv", "typeof", "unsized",
  "virtual", "yield", "try"]

/-- Keywords of paths, which cannot be raw identifiers. -/
def pathKeywords : List String := ["crate", "self", "super", "Self"]

/-- A word made fit to name a field: a path keyword gets an underscore behind it, any other keyword
becomes a raw identifier, and a digit gets an underscore in front. -/
def escapeField (word : String) : String :=
  if pathKeywords.contains word then word ++ "_"
  else if keywords.contains word then "r#" ++ word
  else if startsWithDigit word.toList then "_" ++ word
  else word

/-! ## Forms -/

/-- The segments run together, all but the first capitalized. -/
def lowerCamel (name : String) : String :=
  match pieces name with
  | [] => ""
  | first :: rest => String.ofList (first ++ rest.flatMap capitalize)

/-- The segments run together, all capitalized. -/
def upperCamel (name : String) : String := String.ofList ((pieces name).flatMap capitalize)

/-- The segments in capitals; a digit in front is hidden behind an `N`. -/
def constant (name : String) : String :=
  let word := Text.upperAll (joined name)
  String.ofList (if startsWithDigit word then 'N' :: word else word)

/-- The segments in small letters, not escaped: a part of a longer identifier. -/
def fragment (name : String) : String := String.ofList (Text.lowerAll (joined name))

/-- The segments in small letters, escaped to stand alone. -/
def snake (name : String) : String := escapeField (fragment name)

/-- The capitalized segments as a type name; a digit in front, and the word `Self`, are hidden
behind an `N`. -/
def typeName (name : String) : String :=
  let word := upperCamel name
  if startsWithDigit word.toList || word == "Self" then "N" ++ word else word

/-- The type of a class's method. -/
def methodTypeName (className methodName : String) : String :=
  typeName className ++ upperCamel methodName

/-- The common part of the names of a method's functions. -/
def methodStem (className methodName : String) : String :=
  fragment className ++ "_" ++ fragment methodName

/-- The common part of the names of the functions for a class's header. -/
def headerStem (className : String) : String := fragment className ++ "_header"

end FrameSchema.Identifier
