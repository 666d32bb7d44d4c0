import FrameSchema.Text.VisibleTable

/-!
# Text/Quoted — texts as string literals of generated code

A quoted text stands between double quotes.  The quote itself, the backslash and four controls have
escapes of one letter; every other character that leaves no mark of its own is written by its code
point, and all others stand as they are.
-/

namespace FrameSchema.Text

/-- Whether a character can be seen on its own. -/
def isVisible (c : Char) : Bool :=
  if c.toNat < 128 then 32 ≤ c.toNat && c.toNat < 127
  else !blankRanges.contains c && !extendingRanges.contains c && !ignorableRanges.contains c

/-- A character by its code point, in hexadecimal digits without leading zeros. -/
def escapeByCode (c : Char) : List Char :=
  '\\' :: 'u' :: '\x7b' :: Nat.toDigits 16 c.toNat ++ ['\x7d']

/-- A character as it stands inside quotes. -/
def quoteChar (c : Char) : List Char :=
  if c = '"' then ['\\', '"']
  else if c = '\\' then ['\\', '\\']
  else if c = '\n' then ['\\', 'n']
  else if c = '\r' then ['\\', 'r']
  else if c = '\t' then ['\\', 't']
  else if c = '\x00' then ['\\', '0']
  else if isVisible c then [c]
  else escapeByCode c

/-- A text between quotes. -/
def quote (text : String) : String :=
  String.ofList ('"' :: text.toList.flatMap quoteChar ++ ['"'])

end FrameSchema.Text
