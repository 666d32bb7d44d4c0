import FrameSchema.Text.Quoted
import Mathlib.Data.List.Basic

/-!
# Proofs/Text/Quoted — a quoted text is read back

A compiler reads a string literal with one character of memory: `Inside` tells whether it stands in
the text, behind a backslash, or among the digits of a code point.  A character as `quoteCharBy`
spells it takes the reader from the text back to the text with this character read
(`readFrom_quoteCharBy`), and that is so whatever characters are taken to be visible, as long as the
quote, the backslash and the carriage return are not left to stand as they are.
-/

namespace FrameSchema.Text

/-! ## Literals -/

/-- Where the reader of a literal stands: in the text, behind a backslash, behind the `u` of a code
point, or behind some digits of it. -/
inductive Inside where
  | text
  | escape
  | brace
  | code (value digits : Nat)
  deriving DecidableEq, Repr

/-- The character of a one-letter escape. -/
def letterEscape? : Char → Option Char
  | '"' => some '"'
  | '\\' => some '\\'
  | 'n' => some '\n'
  | 'r' => some '\r'
  | 't' => some '\t'
  | '0' => some '\x00'
  | _ => none

/-- The value of a hexadecimal digit, in small letters or capitals. -/
def hexValue? (c : Char) : Option Nat :=
  if c.isDigit then some (c.toNat - 48)
  else if 'a' ≤ c && c ≤ 'f' then some (c.toNat - 87)
  else if 'A' ≤ c && c ≤ 'F' then some (c.toNat - 55)
  else none

/-- Puts a character in front of the text of a literal that was read to its end. -/
def withFirst (c : Char) (read : Option (List Char × List Char)) : Option (List Char × List Char) :=
  read.map fun (text, rest) => (c :: text, rest)

/-- Reads a literal up to the quote that ends it, and gives its text and what follows.  A carriage
return has to be escaped, and a code point has one to six digits. -/
def readFrom : Inside → List Char → Option (List Char × List Char)
  | _, [] => none
  | .text, c :: rest =>
    if c = '"' then some ([], rest)
    else if c = '\\' then readFrom .escape rest
    else if c = '\r' then none
    else withFirst c (readFrom .text rest)
  | .escape, c :: rest =>
    if c = 'u' then readFrom .brace rest
    else (letterEscape? c).bind fun d => withFirst d (readFrom .text rest)
  | .brace, c :: rest => if c = '\x7b' then readFrom (.code 0 0) rest else none
  | .code value digits, c :: rest =>
    if c = '\x7d' then
      if 0 < digits ∧ value.isValidChar then withFirst (Char.ofNat value) (readFrom .text rest)
      else none
    else (hexValue? c).bind fun d =>
      if digits < 6 then readFrom (.code (16 * value + d) (digits + 1)) rest else none

/-- Reads a literal from its first quote on. -/
def readQuoted : List Char → Option (String × List Char)
  | [] => none
  | c :: rest =>
    if c = '"' then (readFrom .text rest).map fun (text, rest) => (String.ofList text, rest)
    else none

/-! ## Spellings -/

/-- A character as it stands inside quotes, visible characters standing as they are. -/
def quoteCharBy (visible : Char → Bool) (c : Char) : List Char :=
  if c = '"' then ['\\', '"']
  else if c = '\\' then ['\\', '\\']
  else if c = '\n' then ['\\', 'n']
  else if c = '\r' then ['\\', 'r']
  else if c = '\t' then ['\\', 't']
  else if c = '\x00' then ['\\', '0']
  else if visible c then [c]
  else escapeByCode c

/-- A text between quotes, visible characters standing as they are. -/
def quoteBy (visible : Char → Bool) (text : String) : String :=
  String.ofList ('"' :: text.toList.flatMap (quoteCharBy visible) ++ ['"'])

theorem quote_eq_quoteBy : quote = quoteBy isVisible := rfl

/-! ## Code points -/

/-- A digit is read as its value, and does not close an escape. -/
theorem hexValue?_digitChar : ∀ d < 16, hexValue? d.digitChar = some d ∧ d.digitChar ≠ '\x7d' := by
  decide

/-- The digits of a number take the reader behind that number. -/
theorem readFrom_toDigits (n : Nat) (rest : List Char) : (Nat.toDigits 16 n).length ≤ 6 →
    readFrom (.code 0 0) (Nat.toDigits 16 n ++ rest)
      = readFrom (.code n (Nat.toDigits 16 n).length) rest := by
  induction n using Nat.strongRecOn generalizing rest with
  | ind n ih =>
    intro hlength
    by_cases hn : n < 16
    · obtain ⟨hvalue, hbrace⟩ := hexValue?_digitChar n hn
      rw [Nat.toDigits_of_lt_base hn, List.singleton_append, readFrom, if_neg hbrace, hvalue]
      simp
    · have hdigits := Nat.toDigits_of_base_le (by decide) (Nat.le_of_not_lt hn)
      rw [hdigits, List.length_append, List.length_singleton] at hlength
      obtain ⟨hvalue, hbrace⟩ := hexValue?_digitChar (n % 16) (Nat.mod_lt n (by decide))
      rw [hdigits, List.append_assoc, ih (n / 16) (by omega) _ (by omega), List.singleton_append,
        readFrom, if_neg hbrace, hvalue, Option.bind_some, if_pos (by omega), Nat.div_add_mod,
        List.length_append, List.length_singleton]

/-- The code of a character has at most six digits. -/
theorem length_toDigits_toNat (c : Char) : (Nat.toDigits 16 c.toNat).length ≤ 6 := by
  have hlt : c.toNat < 16 ^ 6 := by
    rcases c.valid with h | ⟨-, h⟩
    · exact Nat.lt_trans h (by decide)
    · exact Nat.lt_trans h (by decide)
  exact (Nat.length_toDigits_le_iff (by decide) (by decide)).2 hlt

/-- A character that is escaped by its code is read back. -/
@[simp] theorem readFrom_escapeByCode (c : Char) (rest : List Char) :
    readFrom .text (escapeByCode c ++ rest) = withFirst c (readFrom .text rest) := by
  have hsplit : escapeByCode c ++ rest
      = '\\' :: 'u' :: '\x7b' :: (Nat.toDigits 16 c.toNat ++ '\x7d' :: rest) := by
    simp [escapeByCode]
  have hopen (cs : List Char) :
      readFrom .text ('\\' :: 'u' :: '\x7b' :: cs) = readFrom (.code 0 0) cs := by
    simp [readFrom]
  have hclose : 0 < (Nat.toDigits 16 c.toNat).length ∧ c.toNat.isValidChar :=
    ⟨Nat.length_toDigits_pos, c.valid⟩
  rw [hsplit, hopen, readFrom_toDigits c.toNat _ (length_toDigits_toNat c), readFrom, if_pos rfl,
    if_pos hclose, Char.ofNat_toNat]

/-! ## Texts -/

/-- **The spelling of a character is read as that character**, whatever follows. -/
@[simp] theorem readFrom_quoteCharBy (visible : Char → Bool) (c : Char) (rest : List Char) :
    readFrom .text (quoteCharBy visible c ++ rest) = withFirst c (readFrom .text rest) := by
  unfold quoteCharBy
  split_ifs with hquote hbackslash hfeed hreturn htab hnull hvisible
  · subst hquote
    simp [readFrom, letterEscape?]
  · subst hbackslash
    simp [readFrom, letterEscape?]
  · subst hfeed
    simp [readFrom, letterEscape?]
  · subst hreturn
    simp [readFrom, letterEscape?]
  · subst htab
    simp [readFrom, letterEscape?]
  · subst hnull
    simp [readFrom, letterEscape?]
  · rw [List.singleton_append, readFrom, if_neg hquote, if_neg hbackslash, if_neg hreturn]
  · exact readFrom_escapeByCode c rest

/-- **Quoted characters are read back, up to the mark that ends them**, whichever of them are
visible. -/
@[simp] theorem readFrom_flatMap_quoteCharBy (visible : Char → Bool) (text rest : List Char) :
    readFrom .text (text.flatMap (quoteCharBy visible) ++ '"' :: rest) = some (text, rest) := by
  induction text with
  | nil => simp [readFrom]
  | cons c text ih =>
    simp [ih, withFirst]

/-- **A quoted text is read back, and its literal ends where it was ended**, whatever follows and
whatever characters stand as they are. -/
@[simp] theorem readQuoted_quoteBy (visible : Char → Bool) (text : String) (rest : List Char) :
    readQuoted ((quoteBy visible text).toList ++ rest) = some (text, rest) := by
  have hsplit : (quoteBy visible text).toList ++ rest
      = '"' :: (text.toList.flatMap (quoteCharBy visible) ++ '"' :: rest) := by
    simp [quoteBy]
  simp [hsplit, readQuoted]

/-! ## Line breaks -/

/-- Whether a character breaks a line. -/
def isLineBreak (c : Char) : Bool := c == '\n' || c == '\r'

/-- The characters of a text that break a line. -/
def lineBreaks (text : String) : List Char := text.toList.filter isLineBreak

/-- Texts in a row have their line breaks one behind the other. -/
@[simp] theorem lineBreaks_append (s t : String) :
    lineBreaks (s ++ t) = lineBreaks s ++ lineBreaks t := by
  rw [lineBreaks, String.toList_append, List.filter_append]
  rfl

theorem exists_of_mem_toDigits {n : Nat} {c : Char} (h : c ∈ Nat.toDigits 16 n) :
    ∃ d < 16, c = d.digitChar := by
  induction n using Nat.strongRecOn with
  | ind n ih =>
    by_cases hn : n < 16
    · rw [Nat.toDigits_of_lt_base hn, List.mem_singleton] at h
      exact ⟨n, hn, h⟩
    · rw [Nat.toDigits_of_base_le (by decide) (Nat.le_of_not_lt hn), List.mem_append,
        List.mem_singleton] at h
      rcases h with h | h
      · exact ih (n / 16) (by omega) h
      · exact ⟨n % 16, Nat.mod_lt n (by decide), h⟩

theorem isLineBreak_eq_false_of_mem_toDigits {n : Nat} {c : Char} (h : c ∈ Nat.toDigits 16 n) :
    isLineBreak c = false := by
  have hall : ∀ d < 16, isLineBreak d.digitChar = false := by decide
  obtain ⟨d, hd, rfl⟩ := exists_of_mem_toDigits h
  exact hall d hd

@[simp] theorem filter_escapeByCode (c : Char) : (escapeByCode c).filter isLineBreak = [] := by
  have hdigits : (Nat.toDigits 16 c.toNat).filter isLineBreak = [] := by
    rw [List.filter_eq_nil_iff]
    intro x hx
    rw [isLineBreak_eq_false_of_mem_toDigits hx]
    decide
  have hsplit : escapeByCode c = ['\\', 'u', '\x7b'] ++ Nat.toDigits 16 c.toNat ++ ['\x7d'] := rfl
  rw [hsplit, List.filter_append, List.filter_append, hdigits]
  rfl

/-- A character that breaks a line is escaped. -/
@[simp] theorem filter_quoteCharBy (visible : Char → Bool) (c : Char) :
    (quoteCharBy visible c).filter isLineBreak = [] := by
  unfold quoteCharBy
  split_ifs with hquote hbackslash hfeed hreturn htab hnull hvisible
  · rfl
  · rfl
  · rfl
  · rfl
  · rfl
  · rfl
  · simp [isLineBreak, hfeed, hreturn]
  · exact filter_escapeByCode c

/-- **A quoted text stays on one line.** -/
@[simp] theorem lineBreaks_quoteBy (visible : Char → Bool) (text : String) :
    lineBreaks (quoteBy visible text) = [] := by
  have htext : (text.toList.flatMap (quoteCharBy visible)).filter isLineBreak = [] := by
    simp [List.filter_flatMap, filter_quoteCharBy]
  rw [lineBreaks, quoteBy, String.toList_ofList, List.filter_append, List.filter_cons_of_neg
    (by decide), htext]
  rfl

end FrameSchema.Text
