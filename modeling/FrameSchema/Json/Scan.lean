/-!
# Json/Scan — reading JSON from left to right, up to the first fault

A document is read strictly from left to right and reading ends at the first fault, so of two faults
the earlier one is told.  `Fault` is what a caller learns: the text ended too early, is no JSON, or
is JSON of another shape than was called for.
-/

namespace FrameSchema.Json

/-- Why a document cannot be read. -/
inductive Fault where
  /-- The text ends inside a value. -/
  | ended
  /-- The text is no JSON. -/
  | malformed
  /-- The text so far is JSON, but not of the shape that was called for. -/
  | misshapen
  deriving DecidableEq, Repr

/-- The wording of a fault. -/
def Fault.message : Fault → String
  | ended => "the text ends inside a value"
  | malformed => "the text is not well formed"
  | misshapen => "the text does not have the expected shape"

/-- The text ahead, and the length of the whole text, which bounds every loop over it. -/
structure Cursor where
  rest : List Char
  size : Nat

/-- A reading step. -/
abbrev Scan := StateT Cursor (Except Fault)

/-- The characters that may stand between the parts of a document. -/
def isBlank (c : Char) : Bool := c == ' ' || c == '\t' || c == '\n' || c == '\r'

/-- The next character, blanks included. -/
def look? : Scan (Option Char) := return (← get).rest.head?

/-- The next character that is not blank, not yet consumed. -/
def peek? : Scan (Option Char) := do
  modify fun cursor => { cursor with rest := cursor.rest.dropWhile isBlank }
  look?

/-- The next character that is not blank; the text must not end here. -/
def peek : Scan Char := do
  match ← peek? with
  | some c => return c
  | none => throw .ended

/-- Passes over one character. -/
def advance : Scan Unit := modify fun cursor => { cursor with rest := cursor.rest.tail }

/-- Consumes one character, blanks included. -/
def next : Scan Char := do
  match ← look? with
  | some c => advance; return c
  | none => throw .ended

/-- Consumes exactly the given characters. -/
def literal : List Char → Scan Unit
  | [] => return ()
  | c :: cs => do if (← next) = c then literal cs else throw .malformed

/-- Consumes characters as long as they satisfy a test. -/
def takeWhile (test : Char → Bool) : Scan (List Char) := do
  let cursor ← get
  set { cursor with rest := cursor.rest.dropWhile test }
  return cursor.rest.takeWhile test

/-- Repeats a step until it gives a result; every step but the last consumes something, so the
length of the text is enough of a budget. -/
def repeatStep {σ α : Type} (step : σ → Scan (σ ⊕ α)) : (budget : Nat) → σ → Scan α
  | 0, _ => throw .malformed
  | budget + 1, state => do
    match ← step state with
    | .inl state => repeatStep step budget state
    | .inr result => return result

/-- Repeats a step until it gives a result. -/
def loop {σ α : Type} (step : σ → Scan (σ ⊕ α)) (start : σ) : Scan α := do
  repeatStep step ((← get).size + 1) start

/-- Runs a reading step over a whole text: behind it only blanks may follow. -/
def readWhole {α : Type} (step : Scan α) (text : String) : Except Fault α := do
  let chars := text.toList
  let (result, _) ← (do
    let result ← step
    match ← peek? with
    | some _ => throw .malformed
    | none => return result : Scan α).run ⟨chars, chars.length⟩
  return result

end FrameSchema.Json
