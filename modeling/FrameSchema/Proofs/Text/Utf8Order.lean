import FrameSchema.Octets
import Mathlib.Algebra.Ring.Nat

/-!
# Proofs/Text/Utf8Order — encoded texts are ordered as texts are

UTF-8 writes a character as a lead octet, which grows with the number of octets behind it, and the
digits that the lead leaves over, most significant first.  So the octets of the smaller of two
characters are smaller, whatever stands behind them (`utf8EncodeChar_append_lt`), and comparing
texts by code point is comparing their encodings octet by octet (`ofText_lt_ofText`).
-/

namespace FrameSchema.Octets

/-- Octet strings are compared octet by octet. -/
theorem cons_lt_cons_iff {a b : UInt8} {s t : Octets} :
    a :: s < b :: t ↔ a.toNat < b.toNat ∨ a.toNat = b.toNat ∧ s < t := by
  rw [List.cons_lt_cons_iff, UInt8.lt_iff_toNat_lt, UInt8.toNat_inj]

/-! ## Characters -/

/-- The last `count` base-64 digits of a number, each in an octet that starts no character. -/
def continuation : (count v : Nat) → Octets
  | 0, _ => []
  | count + 1, v => UInt8.ofNat (v / 64 ^ count % 64 + 0x80) :: continuation count v

/-- Numbers that agree above these digits are ordered as the digits are. -/
theorem continuation_append_lt {v w : Nat} (hlt : v < w) (s t : Octets) : ∀ {count : Nat},
    v / 64 ^ count = w / 64 ^ count → continuation count v ++ s < continuation count w ++ t
  | 0, h => by
      rw [Nat.pow_zero, Nat.div_one, Nat.div_one] at h
      omega
  | count + 1, h => by
      rw [Nat.pow_succ, ← Nat.div_div_eq_div_mul, ← Nat.div_div_eq_div_mul] at h
      have hle : v / 64 ^ count ≤ w / 64 ^ count := Nat.div_le_div_right (Nat.le_of_lt hlt)
      rw [continuation, continuation, List.cons_append, List.cons_append, cons_lt_cons_iff,
        UInt8.toNat_ofNat', UInt8.toNat_ofNat']
      rcases Nat.eq_or_lt_of_le hle with heq | hlt'
      · exact .inr ⟨by rw [heq], continuation_append_lt hlt s t heq⟩
      · exact .inl (by omega)

/-- What UTF-8 writes for a code point: a lead octet, and how many octets go on behind it. -/
inductive Leads (v : Nat) : (lead count : Nat) → Prop where
  | one (h : v ≤ 0x7f) : Leads v v 0
  | two (h : 0x7f < v) (h' : v ≤ 0x7ff) : Leads v (v / 64 ^ 1 + 0xc0) 1
  | three (h : 0x7ff < v) (h' : v ≤ 0xffff) : Leads v (v / 64 ^ 2 + 0xe0) 2
  | four (h : 0xffff < v) (h' : v < 0x110000) : Leads v (v / 64 ^ 3 + 0xf0) 3

namespace Leads

variable {v w lead lead' count count' : Nat}

theorem lead_lt (h : Leads v lead count) : lead < 256 := by
  cases h <;> omega

/-- **The lead octets decide**, unless the code points differ in the octets behind them. -/
theorem lt_or_eq (h : Leads v lead count) (h' : Leads w lead' count') (hlt : v < w) :
    lead < lead' ∨ lead = lead' ∧ count = count' ∧ v / 64 ^ count = w / 64 ^ count := by
  cases h <;> cases h' <;> omega

end Leads

theorem toNat_lt_of_char (c : Char) : c.val.toNat < 0x110000 := by
  have h := c.valid
  simp only [UInt32.isValidChar, Nat.isValidChar] at h
  omega

/-- A character is written as its lead octet and the digits that this leaves over. -/
theorem exists_leads (c : Char) : ∃ lead count, Leads c.val.toNat lead count ∧
    String.utf8EncodeChar c = UInt8.ofNat lead :: continuation count c.val.toNat := by
  have hmax := toNat_lt_of_char c
  unfold String.utf8EncodeChar
  generalize c.val.toNat = v at hmax
  by_cases h₁ : v ≤ 0x7f
  · exact ⟨_, _, .one h₁, if_pos h₁⟩
  by_cases h₂ : v ≤ 0x7ff
  · refine ⟨_, _, .two (by omega) h₂, ?_⟩
    rw [if_neg h₁, if_pos h₂, Nat.mod_eq_of_lt (by omega : v / 64 < 32)]
    simp only [continuation, Nat.pow_zero, Nat.div_one, Nat.pow_one]
  by_cases h₃ : v ≤ 0xffff
  · refine ⟨_, _, .three (by omega) h₃, ?_⟩
    rw [if_neg h₁, if_neg h₂, if_pos h₃, Nat.mod_eq_of_lt (by omega : v / 4096 < 16)]
    simp only [continuation, Nat.pow_zero, Nat.div_one, Nat.reducePow]
  · refine ⟨_, _, .four (by omega) hmax, ?_⟩
    rw [if_neg h₁, if_neg h₂, if_neg h₃, Nat.mod_eq_of_lt (by omega : v / 262144 < 8)]
    simp only [continuation, Nat.pow_zero, Nat.div_one, Nat.reducePow]

/-- **The octets of the smaller of two characters are smaller**, whatever stands behind them. -/
theorem utf8EncodeChar_append_lt {c d : Char} (h : c < d) (s t : Octets) :
    String.utf8EncodeChar c ++ s < String.utf8EncodeChar d ++ t := by
  obtain ⟨lead, count, hc, hc'⟩ := exists_leads c
  obtain ⟨lead', count', hd, hd'⟩ := exists_leads d
  have hlt : c.val.toNat < d.val.toNat := h
  rw [hc', hd', List.cons_append, List.cons_append, cons_lt_cons_iff,
    UInt8.toNat_ofNat_of_lt' hc.lead_lt, UInt8.toNat_ofNat_of_lt' hd.lead_lt]
  rcases hc.lt_or_eq hd hlt with hlead | ⟨hlead, rfl, hdiv⟩
  · exact .inl hlead
  · exact .inr ⟨hlead, continuation_append_lt hlt s t hdiv⟩

/-! ## Texts -/

/-- A text is encoded character by character. -/
theorem ofText_eq_flatMap (text : String) :
    ofText text = text.toList.flatMap String.utf8EncodeChar := by
  have h : text.toList.utf8Encode = text.toByteArray := String.utf8Encode_toList
  rw [ofText, String.toUTF8, ← h, List.utf8Encode, List.data_toByteArray]

/-- **The order of characters is the order of their encodings.** -/
theorem flatMap_utf8EncodeChar_lt {cs ds : List Char} (h : List.Lex (· < ·) cs ds) :
    cs.flatMap String.utf8EncodeChar < ds.flatMap String.utf8EncodeChar := by
  induction h with
  | nil =>
    rw [List.flatMap_nil, List.flatMap_cons]
    obtain ⟨lead, count, -, hd⟩ := exists_leads _
    rw [hd]
    exact List.nil_lt_cons _ _
  | cons _ ih => exact List.append_left_lt ih
  | rel hlt => exact utf8EncodeChar_append_lt hlt _ _

/-- **The encodings of two texts are ordered octet by octet** as the texts are by code point. -/
theorem ofText_lt_ofText {s t : String} (h : s < t) : ofText s < ofText t := by
  rw [ofText_eq_flatMap, ofText_eq_flatMap]
  exact flatMap_utf8EncodeChar_lt h

end FrameSchema.Octets
