import FrameSchema.Schema.Check
import Mathlib.Data.List.Basic

/-!
# Proofs/Identifier — the spelling of compound names, and of constants

A method is known to the codec as `class.method`, and to generated code by its stem.  Since a dot is
a delimiter like any other, the stem is the small-letter spelling of the compound name
(`fragment_compound`): where no two stems are equal, no two compound names are.  Constants are
spelled in capitals throughout, so none is spelled like a function.
-/

namespace FrameSchema

namespace Text

variable {isDelimiter : Char → Bool}

theorem splitPieces_cons_delimiter {d : Char} (hd : isDelimiter d) (cs : List Char) :
    splitPieces isDelimiter (d :: cs) = [] :: splitPieces isDelimiter cs := by
  rw [splitPieces, if_pos hd]

/-- There is a first piece, which a character that is no delimiter joins. -/
theorem exists_splitPieces_cons (isDelimiter : Char → Bool) (cs : List Char) : ∃ piece pieces,
    splitPieces isDelimiter cs = piece :: pieces ∧ ∀ c, isDelimiter c = false →
      splitPieces isDelimiter (c :: cs) = (c :: piece) :: pieces := by
  cases hcs : splitPieces isDelimiter cs with
  | nil =>
    cases cs with
    | nil => cases hcs
    | cons d cs =>
      rw [splitPieces] at hcs
      split at hcs
      · cases hcs
      · split at hcs
        · cases hcs
        · cases hcs
  | cons piece pieces =>
    refine ⟨piece, pieces, rfl, fun c hc => ?_⟩
    rw [splitPieces, hc, hcs]
    rfl

/-- **A delimiter separates the pieces in front of it from those behind it.** -/
theorem splitPieces_append {d : Char} (hd : isDelimiter d) (rest : List Char) : ∀ cs : List Char,
    splitPieces isDelimiter (cs ++ d :: rest)
      = splitPieces isDelimiter cs ++ splitPieces isDelimiter rest
  | [] => splitPieces_cons_delimiter hd rest
  | c :: cs => by
      have ih := splitPieces_append hd rest cs
      rw [List.cons_append]
      cases hc : isDelimiter c with
      | true =>
        rw [splitPieces_cons_delimiter hc, splitPieces_cons_delimiter hc, ih, List.cons_append]
      | false =>
        obtain ⟨piece, pieces, hcs, hjoin⟩ := exists_splitPieces_cons isDelimiter cs
        obtain ⟨piece', pieces', hall, hjoin'⟩ :=
          exists_splitPieces_cons isDelimiter (cs ++ d :: rest)
        rw [hcs, List.cons_append, hall] at ih
        obtain ⟨rfl, rfl⟩ := List.cons.inj ih
        rw [hjoin c hc, hjoin' c hc, List.cons_append]

/-- The characters of the pieces are those of the text that are no delimiters. -/
@[simp] theorem flatten_splitPieces : ∀ cs : List Char,
    (splitPieces isDelimiter cs).flatten = cs.filter (!isDelimiter ·)
  | [] => rfl
  | c :: cs => by
      rw [List.filter_cons, ← flatten_splitPieces cs]
      cases hc : isDelimiter c with
      | true => rw [splitPieces_cons_delimiter hc, List.flatten_cons]; rfl
      | false =>
        obtain ⟨piece, pieces, hcs, hjoin⟩ := exists_splitPieces_cons isDelimiter cs
        rw [hjoin c hc, hcs]
        rfl

/-- Without a delimiter there is one piece. -/
theorem splitPieces_of_forall_not : ∀ {cs : List Char}, (∀ c ∈ cs, isDelimiter c = false) →
    splitPieces isDelimiter cs = [cs]
  | [], _ => rfl
  | c :: cs, h => by
      rw [List.forall_mem_cons] at h
      rw [splitPieces, h.1, splitPieces_of_forall_not h.2]
      rfl

/-- Small letters are found character by character where no capital sigma looks at its
neighbours. -/
theorem lowerAfter_eq_flatMap : ∀ {before cs : List Char}, 'Σ' ∉ cs →
    lowerAfter before cs = cs.flatMap lower
  | _, [], _ => rfl
  | before, c :: cs, h => by
      rw [List.mem_cons, not_or] at h
      rw [lowerAfter, if_neg (Ne.symm h.1), lowerAfter_eq_flatMap h.2, List.flatMap_cons]

end Text

namespace Identifier

theorem isDelimiter_of_isAlphanum {c : Char} (h : c.isAlphanum) : isDelimiter c = false := by
  cases hc : isDelimiter c with
  | false => rfl
  | true =>
    rcases Bool.or_eq_true_iff.1 hc with hd | hd
    · rw [eq_of_beq hd] at h
      cases h
    · rw [eq_of_beq hd] at h
      cases h

/-- The pieces of a compound name are those of its parts. -/
@[simp] theorem pieces_compound (c m : String) : pieces (c ++ "." ++ m) = pieces c ++ pieces m := by
  have hdot : (c ++ "." ++ m).toList = c.toList ++ '.' :: m.toList := by
    rw [String.toList_append, String.toList_append, List.append_assoc]
    rfl
  rw [pieces, hdot, Text.splitPieces_append (by decide), List.filter_append, ← pieces, ← pieces]

/-- Pieces lose nothing of a name but its delimiters. -/
theorem flatten_pieces (name : String) :
    (pieces name).flatten = name.toList.filter (!isDelimiter ·) := by
  rw [pieces, List.flatten_filter_not_isEmpty, Text.flatten_splitPieces]

/-- A letter or digit is left without the delimiters. -/
theorem exists_isAlphanum_mem_pieces {name : String} (h : Schema.isAdmissibleName name) :
    ∃ piece ∈ pieces name, ∃ c ∈ piece, c.isAlphanum := by
  obtain ⟨c, hc, halpha⟩ := List.any_eq_true.1 (Bool.and_eq_true_iff.1 h).2
  have hmem : c ∈ (pieces name).flatten := by
    rw [flatten_pieces, List.mem_filter, isDelimiter_of_isAlphanum halpha]
    exact ⟨hc, rfl⟩
  obtain ⟨piece, hpiece, hc⟩ := List.mem_flatten.1 hmem
  exact ⟨piece, hpiece, c, hc, halpha⟩

/-- A name that can be made an identifier has a piece. -/
theorem pieces_ne_nil {name : String} (h : Schema.isAdmissibleName name) : pieces name ≠ [] := by
  obtain ⟨piece, hpiece, -⟩ := exists_isAlphanum_mem_pieces h
  exact List.ne_nil_of_mem hpiece

theorem intercalate_append {sep : List Char} {ys : List (List Char)} (hys : ys ≠ []) :
    ∀ {xs : List (List Char)}, xs ≠ [] →
      sep.intercalate (xs ++ ys) = sep.intercalate xs ++ sep ++ sep.intercalate ys
  | [x], _ => by
      rw [List.singleton_append, List.intercalate_cons_of_ne_nil hys, List.intercalate_singleton]
  | x :: x' :: xs, _ => by
      rw [List.cons_append, List.cons_append, List.intercalate_cons_cons, ← List.cons_append,
        intercalate_append hys (List.cons_ne_nil x' xs), List.intercalate_cons_cons]
      simp only [List.append_assoc]

theorem mem_intercalate {sep : List Char} {x : Char} : ∀ {xs : List (List Char)},
    x ∈ sep.intercalate xs → x ∈ sep ∨ x ∈ xs.flatten
  | [y], h => by
      rw [List.intercalate_singleton] at h
      exact .inr (by rwa [List.flatten_singleton])
  | y :: y' :: ys, h => by
      rw [List.intercalate_cons_cons, List.mem_append, List.mem_append] at h
      rw [List.flatten_cons, List.mem_append]
      rcases h with (h | h) | h
      · exact .inr (.inl h)
      · exact .inl h
      · exact (mem_intercalate h).imp_right .inr

/-- A compound name joins its parts as it joins their pieces. -/
theorem joined_compound {c m : String} (hc : Schema.isAdmissibleName c)
    (hm : Schema.isAdmissibleName m) : joined (c ++ "." ++ m) = joined c ++ ['_'] ++ joined m := by
  rw [joined, pieces_compound, intercalate_append (pieces_ne_nil hm) (pieces_ne_nil hc), joined,
    joined]

/-- The characters of the joined segments may stand in a name, as the underscore may. -/
theorem isNameChar_of_mem_joined {name : String} (h : Schema.isAdmissibleName name) {c : Char}
    (hc : c ∈ joined name) : Schema.isNameChar c := by
  rcases mem_intercalate hc with hsep | hpiece
  · rw [List.mem_singleton.1 hsep]
    decide
  · rw [flatten_pieces, List.mem_filter] at hpiece
    exact List.all_eq_true.1 (Bool.and_eq_true_iff.1 h).1 c hpiece.1

/-- The letters of an admissible name have small forms of their own. -/
theorem sigma_not_mem_joined {name : String} (h : Schema.isAdmissibleName name) :
    'Σ' ∉ joined name := by
  intro hmem
  cases isNameChar_of_mem_joined h hmem

/-- **The stem of a method is the small-letter spelling of its compound name.** -/
theorem fragment_compound {c m : String} (hc : Schema.isAdmissibleName c)
    (hm : Schema.isAdmissibleName m) : fragment (c ++ "." ++ m) = methodStem c m := by
  have hunder : 'Σ' ∉ joined c ++ ['_'] ++ joined m := by
    rw [List.mem_append, List.mem_append]
    rintro ((h | h) | h)
    · exact sigma_not_mem_joined hc h
    · exact absurd h (by decide)
    · exact sigma_not_mem_joined hm h
  rw [fragment, joined_compound hc hm, Text.lowerAll, Text.lowerAfter_eq_flatMap hunder,
    List.flatMap_append, List.flatMap_append, methodStem, fragment, fragment, Text.lowerAll,
    Text.lowerAll, Text.lowerAfter_eq_flatMap (sigma_not_mem_joined hc),
    Text.lowerAfter_eq_flatMap (sigma_not_mem_joined hm)]
  rw [String.ofList_append, String.ofList_append]
  rfl

/-! ## Capitals -/

/-- Letters and digits lie within ASCII. -/
theorem toNat_lt_of_isAlphanum {c : Char} (h : c.isAlphanum) : c.toNat < 128 := by
  have hle (top : Char) (hc : c ≤ top) (htop : top.toNat < 128) : c.toNat < 128 :=
    Nat.lt_of_le_of_lt (UInt32.le_iff_toNat_le.1 hc) htop
  rcases Bool.or_eq_true_iff.1 h with halpha | hdigit
  · rcases Bool.or_eq_true_iff.1 halpha with hupper | hlower
    · exact hle 'Z' (of_decide_eq_true hupper).2 (by decide)
    · exact hle 'z' (of_decide_eq_true (Bool.and_eq_true_iff.1 hlower).2) (by decide)
  · exact hle '9' (of_decide_eq_true (Bool.and_eq_true_iff.1 hdigit).2) (by decide)

/-- Schema names are made of ASCII characters. -/
theorem toNat_lt_of_isNameChar {c : Char} (h : Schema.isNameChar c) : c.toNat < 128 := by
  rw [Schema.isNameChar, Bool.or_eq_true_iff, Bool.or_eq_true_iff, Bool.or_eq_true_iff, beq_iff_eq,
    beq_iff_eq, beq_iff_eq] at h
  rcases h with ((h | rfl) | rfl) | rfl
  · exact toNat_lt_of_isAlphanum h
  · decide
  · decide
  · decide

/-- What holds of the first 128 characters holds of every ASCII character. -/
theorem forall_ascii {P : Char → Prop} (h : ∀ n < 128, P (Char.ofNat n)) (c : Char)
    (hc : c.toNat < 128) : P c :=
  Char.ofNat_toNat c ▸ h c.toNat hc

theorem isLower_eq_false_of_mem_upper {c x : Char} (hc : c.toNat < 128) (hx : x ∈ Text.upper c) :
    x.isLower = false := by
  have hall : ∀ c : Char, c.toNat < 128 → (Text.upper c).all (!·.isLower) :=
    forall_ascii (by decide)
  simpa using List.all_eq_true.1 (hall c hc) x hx

/-- **A constant has no small letters.** -/
theorem isLower_eq_false_of_mem_constant {name : String} (h : Schema.isAdmissibleName name)
    {x : Char} (hx : x ∈ (constant name).toList) : x.isLower = false := by
  have hword : ∀ x ∈ Text.upperAll (joined name), x.isLower = false := by
    intro x hx
    obtain ⟨c, hc, hx⟩ := List.mem_flatMap.1 hx
    exact isLower_eq_false_of_mem_upper (toNat_lt_of_isNameChar (isNameChar_of_mem_joined h hc)) hx
  rw [constant, String.toList_ofList] at hx
  split at hx
  · rcases List.mem_cons.1 hx with rfl | hx
    · decide
    · exact hword x hx
  · exact hword x hx

end Identifier

end FrameSchema
