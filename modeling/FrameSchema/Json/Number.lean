import FrameSchema.Json.Scan

/-!
# Json/Number — number literals

A literal without fraction and exponent that fits 64 bits, signed or unsigned, is an integer; `-0`
is none.  Every other literal is a real number and has to lie in the range of binary64: it is
taken as a significand of at most 64 bits times a power of ten, both rounded to 53 significant bits,
and their product must stay below the largest finite number by rounding.
-/

namespace FrameSchema.Json

/-- A number as far as schemas tell numbers apart. -/
inductive Number where
  | integer (value : Int)
  | real
  deriving DecidableEq, Repr

/-! ## Range -/

/-- The nearest number with 53 significant bits; of two equally near ones the even one. -/
def roundTo53 (n : Nat) : Nat :=
  if n < 1 <<< 53 then n
  else
    let unit := 1 <<< (n.log2 - 52)
    let quotient := n / unit
    let twice := 2 * (n % unit)
    let up := unit < twice || (unit == twice && quotient % 2 == 1)
    (if up then quotient + 1 else quotient) * unit

/-- Whether `significand * 10 ^ exponent` rounds to infinity. -/
def exceedsRange (significand : Nat) (exponent : Int) : Bool :=
  if significand = 0 || exponent < 0 then false
  else 308 < exponent ||
    1 <<< 1024 - 1 <<< 970 ≤ roundTo53 significand * roundTo53 (Nat.pow 10 exponent.toNat)

/-! ## Literals -/

/-- The largest exponent that is looked at. -/
def maxExponent : Nat := 0x7fffffff

/-- Puts digits behind a significand as long as it stays in 64 bits; the other digits are left. -/
def absorb : Nat → List Char → Nat × List Char
  | significand, [] => (significand, [])
  | significand, c :: cs =>
    let longer := significand * 10 + (c.toNat - '0'.toNat)
    if longer < UInt64.size then absorb longer cs else (significand, c :: cs)

/-- The number of a run of decimal digits. -/
def decimal (digits : List Char) : Nat :=
  digits.foldl (fun n c => n * 10 + (c.toNat - '0'.toNat)) 0

/-- At least one digit. -/
def readDigits : Scan (List Char) := do
  let digits ← takeWhile Char.isDigit
  if digits.isEmpty then
    match ← look? with
    | some _ => throw .malformed
    | none => throw .ended
  else return digits

/-- An integer part: a single zero, or digits that do not start with zero. -/
def readIntegerPart : Scan (List Char) := do
  let digits ← readDigits
  match digits with
  | '0' :: _ :: _ => throw .malformed
  | _ => return digits

/-- The end of a real number: an exponent, if there is one, and the check of the range. -/
def readExponent (significand : Nat) (exponent : Int) : Scan Unit := do
  let c ← look?
  if c = some 'e' || c = some 'E' then
    advance
    let sign ← look?
    if sign = some '+' || sign = some '-' then advance
    let size := decimal (← readDigits)
    if maxExponent < size then
      if significand ≠ 0 && sign ≠ some '-' then throw .malformed
    else if exceedsRange significand (if sign = some '-' then exponent - size else exponent + size)
    then throw .malformed
  else if exceedsRange significand exponent then throw .malformed

/-- A number literal. -/
def readNumber : Scan Number := do
  let negative := (← look?) = some '-'
  if negative then advance
  let digits ← readIntegerPart
  let (significand, dropped) := absorb 0 digits
  match ← look? with
  | some '.' =>
    advance
    let fraction ← readDigits
    let (significand, unused) := absorb significand fraction
    readExponent significand (dropped.length - (fraction.length - unused.length : Nat))
    return .real
  | some 'e' | some 'E' =>
    readExponent significand dropped.length
    return .real
  | _ =>
    if dropped.isEmpty then
      if !negative then return .integer significand
      else if 0 < significand && significand ≤ 1 <<< 63 then return .integer (-significand)
      else return .real
    else
      readExponent significand dropped.length
      return .real

/-- At least one digit of a number that is passed over; here an early end is a malformed number. -/
def skipDigits : Scan (List Char) := do
  let digits ← takeWhile Char.isDigit
  if digits.isEmpty then throw .malformed else return digits

/-- Passes over a number literal of any size. -/
def skipNumber : Scan Unit := do
  if (← look?) = some '-' then advance
  match ← skipDigits with
  | '0' :: _ :: _ => throw .malformed
  | _ => pure ()
  if (← look?) = some '.' then
    advance
    let _ ← skipDigits
  let c ← look?
  if c = some 'e' || c = some 'E' then
    advance
    let sign ← look?
    if sign = some '+' || sign = some '-' then advance
    let _ ← skipDigits

end FrameSchema.Json
