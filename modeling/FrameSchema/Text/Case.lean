import FrameSchema.Text.CaseTable

/-!
# Text/Case — full case mapping of characters and texts, and the pieces of a text

A character may become several (`ß` to `SS`), so the mappings give lists.  ASCII letters are mapped
by arithmetic and all others by the tables of `Text/CaseTable`.  One letter looks at its neighbours:
a capital sigma that ends a word becomes `ς`, any other `σ`.

Names are cut at their delimiters, paths at slashes and sources at line feeds (`splitPieces`).
-/

namespace FrameSchema.Text

/-! ## Pieces -/

/-- The pieces between delimiters, empty ones included; there is one more than there are
delimiters. -/
def splitPieces (isDelimiter : Char → Bool) : List Char → List (List Char)
  | [] => [[]]
  | c :: cs =>
    if isDelimiter c then [] :: splitPieces isDelimiter cs
    else match splitPieces isDelimiter cs with
      | [] => [[c]]
      | piece :: pieces => (c :: piece) :: pieces

/-! ## Case mapping -/

/-- A character moved by the run that holds it. -/
def CaseRun.move (runs : List CaseRun) (c : Char) : Char :=
  let n := c.toNat
  match runs.find? fun run =>
    run.first ≤ n && n ≤ run.last && (n - run.first) % run.stride == 0 with
  | some run => Char.ofNat (n + run.shift).toNat
  | none => c

/-- The capital of a character. -/
def upper (c : Char) : List Char :=
  if c.toNat < 128 then [c.toUpper]
  else match upperExpansions.find? (·.1 == c.toNat) with
    | some expansion => expansion.2.map Char.ofNat
    | none => [CaseRun.move upperRuns c]

/-- The small form of a character; a capital `I` with a dot keeps the dot. -/
def lower (c : Char) : List Char :=
  if c.toNat < 128 then [c.toLower]
  else if c.toNat = 0x130 then ['i', Char.ofNat 0x307]
  else [CaseRun.move lowerRuns c]

/-- Whether a character is a letter with a case. -/
def isCased (c : Char) : Bool :=
  if c.toNat < 128 then c.isAlpha else casedRanges.contains c

/-- Whether a character is passed over in the search for neighbouring letters. -/
def isCaseIgnorable (c : Char) : Bool :=
  if c.toNat < 128 then [0x27, 0x2e, 0x3a, 0x5e, 0x60].contains c.toNat
  else caseIgnorableRanges.contains c

/-- Whether the first character that counts is a cased letter. -/
def startsCased (cs : List Char) : Bool :=
  match cs.dropWhile isCaseIgnorable with
  | c :: _ => isCased c
  | [] => false

/-- The small form of a capital sigma between a reversed beginning and a rest. -/
def lowerSigma (before rest : List Char) : Char :=
  if startsCased before && !startsCased rest then 'ς' else 'σ'

/-- The small form of characters that follow a reversed beginning. -/
def lowerAfter : (before : List Char) → List Char → List Char
  | _, [] => []
  | before, c :: rest =>
    (if c = 'Σ' then [lowerSigma before rest] else lower c) ++ lowerAfter (c :: before) rest

/-- A text in capitals. -/
def upperAll (cs : List Char) : List Char := cs.flatMap upper

/-- A text in small letters. -/
def lowerAll (cs : List Char) : List Char := lowerAfter [] cs

end FrameSchema.Text
