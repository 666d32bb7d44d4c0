import FrameSchema.Wire.Encoding
import FrameSchema.Wire.Reader

/-!
# Wire/OptionalFieldList — fields that may be absent, behind presence flags

The properties of a header frame start with 16-bit flag words.  Bits 15 to 1 of a word tell of
fifteen fields, in order, whether they are present, and bit 0 whether another word follows; there
is always a first word.  Then come the present values, each standing alone, bits included.
-/

namespace FrameSchema.Wire

/-- The number of fields that one flag word tells of. -/
def flagsPerWord : Nat := 15

/-! ## Writing -/

/-- A word with one flag, or none. -/
def flagBit (bit : Nat) (present : Bool) : UInt16 :=
  if present then 1 <<< UInt16.ofNat bit else 0

/-- The flag words of presences behind a word whose bits above `free` are taken.  A word that has no
bit left for the next presence is told to have a successor. -/
def flagWordsAfter : (word : UInt16) → (free : Nat) → List Bool → List UInt16
  | word, _, [] => [word]
  | word, 0, present :: rest =>
    (word ||| 1) :: flagWordsAfter (flagBit flagsPerWord present) (flagsPerWord - 1) rest
  | word, free + 1, present :: rest =>
    flagWordsAfter (word ||| flagBit (free + 1) present) free rest

/-- The flag words of a list of presences, fifteen to a word; at least one word. -/
def flagWords (present : List Bool) : List UInt16 := flagWordsAfter 0 flagsPerWord present

/-- Writes all flag words, then the present values up to the first that cannot be written. -/
def writeOptionalFields (values : List (Option Value)) : Written :=
  .after ((flagWords (values.map Option.isSome)).flatMap fun word => Octets.bigEndian 2 word.toNat)
    (writeValues (values.filterMap id))

/-! ## Reading -/

/-- The fifteen presences of a flag word. -/
def flagsOf (word : UInt16) : List Bool :=
  (List.range flagsPerWord).map fun i => word &&& (1 <<< UInt16.ofNat (flagsPerWord - i)) != 0

/-- Reads flag words up to the first without a successor.  The budget counts words still allowed;
the octets at hand bound their number. -/
def readFlags : (budget : Nat) → Read (List Bool)
  | 0 => throw .endOfInput
  | budget + 1 => do
    let word ← readShort
    if word &&& 1 = 0 then return flagsOf word
    else return flagsOf word ++ (← readFlags budget)

/-- Reads the values that are flagged as present; kinds without a flag are absent. -/
def readPresent : List Bool → List Primitive → Read (List (Option Value))
  | _, [] => return []
  | true :: present, kind :: kinds => do
    let value ← readValue maxTableDepth kind
    return some value :: (← readPresent present kinds)
  | present, _ :: kinds => return none :: (← readPresent present.tail kinds)

/-- Reads one optional value for each kind; flags beyond the kinds are passed over. -/
def readOptionalFields (kinds : List Primitive) : Read (List (Option Value)) := do
  let present ← readFlags ((← get).remaining + 1)
  readPresent present kinds

end FrameSchema.Wire
