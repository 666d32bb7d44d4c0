import FrameSchema.Octets
import FrameSchema.Wire.Error
import FrameSchema.Wire.Value

/-!
# Wire/Encoding — the octets of a single value

| kind                    | octets                                                     |
|-------------------------|------------------------------------------------------------|
| `octet`, `short`, `long`| one, two, four, most significant first                     |
| `longlong`, `timestamp` | eight                                                      |
| `bit`                   | one octet, 0 or 1 (field lists pack bits: `Wire/FieldList`)|
| `shortstr`              | a one-octet length, then the text                          |
| `longstr`               | a four-octet length, then the text                         |
| `table`                 | a four-octet length, then key, tag and value of each entry |

`Value.encode` gives all octets of a value or none: a table with a bad entry deep inside leaves no
trace.  The first fault in key order wins, an entry's key being looked at before its value.
-/

namespace FrameSchema.Wire

/-- A text behind a one-octet length. -/
def encodeShortString (s : String) : Except Error Octets :=
  let text := Octets.ofText s
  if text.length < 256 then .ok (Octets.bigEndian 1 text.length ++ text)
  else .error (.shortStringTooLong text.length)

/-- Octets behind a four-octet length; the cause is named by the caller. -/
def encodeLong (tooLong : Nat → Error) (body : Octets) : Except Error Octets :=
  if body.length < UInt32.size then .ok (Octets.bigEndian 4 body.length ++ body)
  else .error (tooLong body.length)

mutual

/-- The octets of a value standing alone. -/
def Value.encode : Value → Except Error Octets
  | .octet v => .ok (Octets.bigEndian 1 v.toNat)
  | .short v => .ok (Octets.bigEndian 2 v.toNat)
  | .long v => .ok (Octets.bigEndian 4 v.toNat)
  | .longlong v | .timestamp v => .ok (Octets.bigEndian 8 v.toNat)
  | .bit v => .ok (Octets.bigEndian 1 v.toNat)
  | .shortstr s => encodeShortString s
  | .longstr s => encodeLong .longStringTooLong (Octets.ofText s)
  | .table entries => do encodeLong .tableTooLong (← entries.encode)

/-- The octets of table entries, in key order: short key, tag, value. -/
def Entries.encode : {floor : Option String} → Entries floor → Except Error Octets
  | _, .nil => .ok []
  | _, .cons key _ value rest => do
    let key ← encodeShortString key
    let body ← value.encode
    let rest ← rest.encode
    return key ++ value.primitive.tag :: body ++ rest

end

/-! ## Output that may stop short -/

/-- What was appended to a buffer, and the fault that stopped the writer, if one did. -/
structure Written where
  octets : Octets
  fault : Option Error
  deriving DecidableEq, Repr

namespace Written

/-- A writer that appended all it had to. -/
def complete (octets : Octets) : Written := ⟨octets, none⟩

/-- A writer that was stopped. -/
def stopped (octets : Octets) (fault : Error) : Written := ⟨octets, some fault⟩

/-- Octets appended before the rest of the writer's work. -/
def after (octets : Octets) (rest : Written) : Written := ⟨octets ++ rest.octets, rest.fault⟩

/-- The octets of a writer that was not stopped. -/
def toExcept : Written → Except Error Octets
  | ⟨octets, none⟩ => .ok octets
  | ⟨_, some fault⟩ => .error fault

end Written

/-- Values one after another, each standing alone; the first that cannot be written ends the
output. -/
def writeValues : List Value → Written
  | [] => .complete []
  | value :: rest =>
    match value.encode with
    | .ok octets => .after octets (writeValues rest)
    | .error fault => .stopped [] fault

end FrameSchema.Wire
