import Mathlib.Data.List.Basic

/-!
# Proofs/Text/Token — a text is cut where a token ends

Printed code puts names and numbers between fixed texts.  A token is made of characters of one
class, and the text behind it starts with a character of none, so the token is what stands in front
of that (`IsToken.append_inj`).  The same cut is made in a list of lines by the depth of the lines
(`append_inj_of_all`).  Texts that are to stand on a line of their own have no line feed in them
(`OneLine`), and do not start with a blank (`Flush`).
-/

namespace FrameSchema.Text

/-! ## Cutting -/

/-- **A list is cut where a property ends**, if it holds up to the cut and not right behind. -/
theorem append_inj_of_all {α : Type} {p : α → Bool} {s s' t t' : List α} (hs : s.all p)
    (hs' : s'.all p) (ht : t.head?.all (!p ·)) (ht' : t'.head?.all (!p ·))
    (h : s ++ t = s' ++ t') : s = s' ∧ t = t' := by
  have htake {s t : List α} (hs : s.all p) (ht : t.head?.all (!p ·)) :
      (s ++ t).takeWhile p = s := by
    rw [List.takeWhile_append_of_pos (List.all_eq_true.1 hs)]
    cases t with
    | nil => simp
    | cons a t =>
      rw [List.takeWhile_cons_of_neg (by simpa using ht), List.append_nil]
  have heq : s = s' := by rw [← htake hs ht, h, htake hs' ht']
  subst heq
  exact ⟨rfl, List.append_cancel_left h⟩

section Heads

variable {α : Type} {p : α → Bool}

/-- What a list starts with is not changed by what comes behind it. -/
theorem any_head?_append {s : List α} (h : s.head?.any p) (t : List α) : (s ++ t).head?.any p := by
  cases s with
  | nil => cases h
  | cons a s => exact h

theorem all_of_any {a : Option α} (h : a.any p) : a.all p := by
  cases a with
  | none => rfl
  | some a => exact h

end Heads

/-! ## Tokens -/

/-- A character of a name or of a number; raw identifiers have a hash in them. -/
def isTokenChar (c : Char) : Bool := c.isAlphanum || c == '_' || c == '#'

/-- A name or a number. -/
structure IsToken (text : String) : Prop where
  ne_empty : text ≠ ""
  all : text.toList.all isTokenChar

instance (text : String) : Decidable (IsToken text) :=
  decidable_of_iff (text ≠ "" ∧ text.toList.all isTokenChar)
    ⟨fun h => ⟨h.1, h.2⟩, fun h => ⟨h.1, h.2⟩⟩

/-- The text starts with a character that ends a token. -/
def EndsToken (text : String) : Prop := text.toList.head?.any (!isTokenChar ·)

instance (text : String) : Decidable (EndsToken text) :=
  inferInstanceAs (Decidable (text.toList.head?.any (!isTokenChar ·) = true))

/-- What ends a token ends it whatever follows. -/
theorem EndsToken.append {text : String} (h : EndsToken text) (rest : String) :
    EndsToken (text ++ rest) := by
  rw [EndsToken, String.toList_append]
  exact any_head?_append h _

namespace IsToken

variable {s s' t t' : String}

/-- **A text is cut where its token ends.** -/
theorem append_inj (hs : IsToken s) (hs' : IsToken s') (ht : EndsToken t) (ht' : EndsToken t')
    (h : s ++ t = s' ++ t') : s = s' ∧ t = t' := by
  have hchars : s.toList ++ t.toList = s'.toList ++ t'.toList := by
    rw [← String.toList_append, h, String.toList_append]
  obtain ⟨heq, heq'⟩ := append_inj_of_all hs.all hs'.all (all_of_any ht) (all_of_any ht') hchars
  exact ⟨String.toList_inj.1 heq, String.toList_inj.1 heq'⟩

/-- A token goes on with the characters of tokens. -/
theorem append (hs : IsToken s) (ht : t.toList.all isTokenChar) : IsToken (s ++ t) where
  ne_empty h := by
    have hchars : s.toList ++ t.toList = [] := by
      rw [← String.toList_append, h, String.toList_empty]
    exact hs.ne_empty (String.toList_eq_nil_iff.1 (List.append_eq_nil_iff.1 hchars).1)
  all := by rw [String.toList_append, List.all_append, hs.all, ht]; rfl

end IsToken

/-! ### Numbers -/

theorem toList_toString (n : Nat) : (toString n).toList = Nat.toDigits 10 n := by
  rw [Nat.toString_eq_ofList_toDigits, String.toList_ofList]

/-- Numbers are tokens. -/
theorem isToken_toString (n : Nat) : IsToken (toString n) where
  ne_empty h := Nat.toDigits_ne_nil ((toList_toString n).symm.trans (congrArg _ h))
  all := by
    rw [toList_toString, List.all_eq_true]
    intro c hc
    have hdigit : c.isDigit := Nat.isDigit_of_mem_toDigits (by decide) (by decide) hc
    simp [isTokenChar, Char.isAlphanum, hdigit]

/-- Numbers are told apart by their digits. -/
theorem toString_inj {m n : Nat} (h : toString m = toString n) : m = n := by
  have hdigits : Nat.toDigits 10 m = Nat.toDigits 10 n := by
    rw [← toList_toString, h, toList_toString]
  rw [← Nat.ofDigitChars_ten_toDigits (n := m), hdigits, Nat.ofDigitChars_ten_toDigits]

/-! ## Lines -/

/-- There is no line feed in the text. -/
def OneLine (text : String) : Prop := '\n' ∉ text.toList

instance (text : String) : Decidable (OneLine text) :=
  inferInstanceAs (Decidable ('\n' ∉ text.toList))

/-- A text is one line if both its parts are. -/
@[simp] theorem oneLine_append {s t : String} : OneLine (s ++ t) ↔ OneLine s ∧ OneLine t := by
  rw [OneLine, String.toList_append, List.mem_append, not_or]
  rfl

/-- The text stands on a line of its own, without blanks in front. -/
structure Flush (text : String) : Prop where
  head : text.toList.head?.any (· != ' ')
  oneLine : OneLine text

instance (text : String) : Decidable (Flush text) :=
  decidable_of_iff (text.toList.head?.any (· != ' ') ∧ OneLine text)
    ⟨fun h => ⟨h.1, h.2⟩, fun h => ⟨h.1, h.2⟩⟩

theorem Flush.append {s t : String} (hs : Flush s) (ht : OneLine t) : Flush (s ++ t) where
  head := by
    rw [String.toList_append]
    exact any_head?_append hs.head _
  oneLine := oneLine_append.2 ⟨hs.oneLine, ht⟩

/-- Tokens begin flush with the margin. -/
theorem IsToken.flush {s : String} (h : IsToken s) : Flush s where
  head := by
    obtain ⟨c, cs, hchars⟩ := List.exists_cons_of_ne_nil fun hnil =>
      h.ne_empty (String.toList_eq_nil_iff.1 hnil)
    have hall := h.all
    rw [hchars, List.all_cons, Bool.and_eq_true] at hall
    rw [hchars]
    refine bne_iff_ne.2 ?_
    rintro rfl
    exact absurd hall.1 (by decide)
  oneLine hmem := absurd (List.all_eq_true.1 h.all _ hmem) (by decide)

theorem IsToken.oneLine {s : String} (h : IsToken s) : OneLine s := h.flush.oneLine

end FrameSchema.Text
