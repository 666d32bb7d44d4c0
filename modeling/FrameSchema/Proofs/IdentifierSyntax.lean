import FrameSchema.Proofs.Identifier
import FrameSchema.Proofs.Schema.WellFormed

/-!
# Proofs/IdentifierSyntax — admissible names yield identifiers

Without its delimiters an admissible name consists of letters, digits and underscores, and not of
underscores alone.  Upon these characters case mapping acts one by one, so that every form is a word
of its alphabet as soon as it does not start with a digit.  No keyword has an underscore, hence no
escape and no longer identifier can be one (`isFieldWord_of_underscore`); and a type name stays one
when a capitalized word is put behind it (`IsTypeName.append`), as is done for methods and for every
type that goes with them.
-/

namespace FrameSchema.Identifier

/-! ## Words -/

/-- A character of `[a-z_]`. -/
def isSmallStart (c : Char) : Bool := c.isLower || c == '_'

/-- A character of `[a-z0-9_]`. -/
def isSmall (c : Char) : Bool := c.isLower || c.isDigit || c == '_'

/-- A character of `[A-Z_]`. -/
def isCapitalStart (c : Char) : Bool := c.isUpper || c == '_'

/-- A character of `[A-Z0-9_]`. -/
def isCapital (c : Char) : Bool := c.isUpper || c.isDigit || c == '_'

/-- A character of `[A-Za-z0-9_]`. -/
def isWordChar (c : Char) : Bool := c.isAlphanum || c == '_'

/-- A word: one character of a first class, and then characters of a second. -/
def IsWord (first rest : Char → Bool) (word : String) : Prop :=
  ∃ c cs, word.toList = c :: cs ∧ first c ∧ cs.all rest

/-- Words that the language has a use for, those of paths apart. -/
def usedWords : List String := [
  "as", "async", "await", "break", "const", "continue", "dyn", "else", "enum", "extern", "false",
  "fn", "for", "if", "impl", "in", "let", "loop", "match", "mod", "move", "mut", "pub", "ref",
  "return", "static", "struct", "trait", "true", "type", "unsafe", "use", "where", "while"]

/-- Words that the language holds back for later use. -/
def heldWords : List String := [
  "abstract", "become", "box", "do", "final", "macro", "override", "priv", "try", "typeof",
  "unsized", "virtual", "yield"]

/-- A word that paths are made of; it cannot be a raw identifier. -/
def IsPathWord (word : String) : Prop :=
  word = "crate" ∨ word = "self" ∨ word = "super" ∨ word = "Self"

/-- A word of `[a-z_][a-z0-9_]*` that is neither `_` nor kept by the language. -/
structure IsFieldWord (word : String) : Prop where
  isWord : IsWord isSmallStart isSmall word
  ne_underscore : word ≠ "_"
  not_used : word ∉ usedWords
  not_held : word ∉ heldWords
  not_pathWord : ¬IsPathWord word

/-- A raw identifier, made of a word that may be one. -/
def IsRaw (text : String) : Prop := ∃ k, (k ∈ usedWords ∨ k ∈ heldWords) ∧ text = "r#" ++ k

/-- A word of `[A-Z_][A-Za-z0-9_]*` that is neither `_` nor `Self`. -/
structure IsTypeName (word : String) : Prop where
  isWord : IsWord isCapitalStart isWordChar word
  ne_underscore : word ≠ "_"
  ne_self : word ≠ "Self"

/-- A word of `[A-Z_][A-Z0-9_]*` that is not `_`. -/
structure IsConstantName (word : String) : Prop where
  isWord : IsWord isCapitalStart isCapital word
  ne_underscore : word ≠ "_"

/-- A non-empty word of `[a-z0-9_]+`. -/
abbrev IsStem (word : String) : Prop := IsWord isSmall isSmall word

/-- The keywords are the words that the language uses or holds back, and `crate`. -/
theorem mem_keywords_iff {word : String} :
    word ∈ keywords ↔ word = "crate" ∨ word ∈ usedWords ∨ word ∈ heldWords := by
  have hperm : keywords.Perm ("crate" :: (usedWords ++ heldWords)) := by decide
  rw [hperm.mem_iff, List.mem_cons, List.mem_append]

/-- The words that may stand in front of a path are the four written out. -/
theorem mem_pathKeywords_iff {word : String} : word ∈ pathKeywords ↔ IsPathWord word := by
  simp [pathKeywords, IsPathWord]

section Words

variable {first rest : Char → Bool} {u w : String}

/-- Characters that may stand anywhere make a word, if there is one. -/
theorem isWord_of_all (hall : w.toList.all rest) {c : Char} (hc : c ∈ w.toList) :
    IsWord rest rest w := by
  obtain ⟨d, ds, hchars⟩ := List.exists_cons_of_ne_nil (List.ne_nil_of_mem hc)
  rw [hchars, List.all_cons, Bool.and_eq_true] at hall
  exact ⟨d, ds, hchars, hall⟩

/-- A word goes on with characters that may stand behind its first. -/
theorem IsWord.append (hw : IsWord first rest w) (hu : u.toList.all rest) :
    IsWord first rest (w ++ u) := by
  obtain ⟨c, cs, hchars, hc, hcs⟩ := hw
  refine ⟨c, cs ++ u.toList, by rw [String.toList_append, hchars, List.cons_append], hc, ?_⟩
  rw [List.all_append, hcs, hu]
  rfl

/-- The characters of a word are of the second class, if those of the first are. -/
theorem IsWord.all (hw : IsWord first rest w) (h : ∀ c, first c → rest c) :
    w.toList.all rest := by
  obtain ⟨c, cs, hchars, hc, hcs⟩ := hw
  rw [hchars, List.all_cons, h c hc, hcs]
  rfl

/-- A word that does not start with a digit keeps to the narrower class in front. -/
theorem IsWord.of_not_startsWithDigit {start : Char → Bool} (hw : IsWord first rest w)
    (hdigit : startsWithDigit w.toList = false)
    (h : ∀ c, first c → c.isDigit = false → start c) : IsWord start rest w := by
  obtain ⟨c, cs, hchars, hc, hcs⟩ := hw
  rw [hchars] at hdigit
  exact ⟨c, cs, hchars, h c hc hdigit, hcs⟩

theorem ne_underscore_of_alphanum (h : ∃ c ∈ w.toList, c.isAlphanum) : w ≠ "_" := by
  rintro rfl
  obtain ⟨c, hc, halpha⟩ := h
  rw [List.mem_singleton.1 hc] at halpha
  exact absurd halpha (by decide)

/-- A letter or digit is still there behind another text. -/
theorem exists_isAlphanum_append (u : String) (h : ∃ c ∈ w.toList, c.isAlphanum) :
    ∃ c ∈ (u ++ w).toList, c.isAlphanum := by
  obtain ⟨c, hc, halpha⟩ := h
  exact ⟨c, by rw [String.toList_append]; exact List.mem_append_right _ hc, halpha⟩

end Words

theorem isSmallStart_of_isSmall (c : Char) (h : isSmall c) (hdigit : c.isDigit = false) :
    isSmallStart c := by
  simpa [isSmall, isSmallStart, hdigit] using h

theorem isCapitalStart_of_isCapital (c : Char) (h : isCapital c) (hdigit : c.isDigit = false) :
    isCapitalStart c := by
  simpa [isCapital, isCapitalStart, hdigit] using h

theorem isWordChar_of_isAlphanum (c : Char) (h : c.isAlphanum) : isWordChar c :=
  Bool.or_eq_true_iff.2 (.inl h)

theorem isWordChar_of_isCapital (c : Char) (h : isCapital c) : isWordChar c := by
  rcases Bool.or_eq_true_iff.1 h with h | hunder
  · apply isWordChar_of_isAlphanum
    rcases Bool.or_eq_true_iff.1 h with hupper | hdigit
    · exact Bool.or_eq_true_iff.2 (.inl (Bool.or_eq_true_iff.2 (.inl hupper)))
    · exact Bool.or_eq_true_iff.2 (.inr hdigit)
  · exact Bool.or_eq_true_iff.2 (.inr hunder)

/-! ## The characters of a name -/

/-- The characters of words lie within ASCII. -/
theorem toNat_lt_of_isWordChar {c : Char} (hc : isWordChar c) : c.toNat < 128 := by
  rcases Bool.or_eq_true_iff.1 hc with halpha | hunder
  · exact toNat_lt_of_isAlphanum halpha
  · rw [eq_of_beq hunder]
    decide

theorem lower_of_isWordChar {c : Char} (hc : isWordChar c) : Text.lower c = [c.toLower] :=
  if_pos (toNat_lt_of_isWordChar hc)

theorem upper_of_isWordChar {c : Char} (hc : isWordChar c) : Text.upper c = [c.toUpper] :=
  if_pos (toNat_lt_of_isWordChar hc)

/-- What case mapping does to the ASCII characters that may stand in a word. -/
theorem casing_of_isWordChar {c : Char} (hc : isWordChar c) :
    isSmall c.toLower ∧ isCapital c.toUpper ∧
      (c.isAlphanum → c.toLower.isAlphanum ∧ c.toUpper.isAlphanum) := by
  have hall : ∀ c : Char, c.toNat < 128 → isWordChar c →
      isSmall c.toLower ∧ isCapital c.toUpper ∧
        (c.isAlphanum → c.toLower.isAlphanum ∧ c.toUpper.isAlphanum) := forall_ascii (by decide)
  exact hall c (toNat_lt_of_isWordChar hc) hc

theorem mem_intercalate_of_mem {sep xs : List Char} {c : Char} (hc : c ∈ xs) :
    ∀ {xss : List (List Char)}, xs ∈ xss → c ∈ sep.intercalate xss
  | [ys], h => by
      rw [List.intercalate_singleton]
      exact List.mem_singleton.1 h ▸ hc
  | ys :: ys' :: yss, h => by
      rw [List.intercalate_cons_cons, List.mem_append]
      rcases List.mem_cons.1 h with rfl | h
      · exact .inl (List.mem_append_left sep hc)
      · exact .inr (mem_intercalate_of_mem hc h)

/-- The segments in capitals, a digit in front being left as it is. -/
def capitals (name : String) : String := String.ofList (Text.upperAll (joined name))

/-- The name of a constant is its capitals, behind a letter if these start with a digit. -/
theorem constant_eq (name : String) : constant name =
    if startsWithDigit (capitals name).toList then "N" ++ capitals name else capitals name := by
  rw [capitals, String.toList_ofList, constant]
  split
  · rw [← List.singleton_append, String.ofList_append]
  · rfl

section Name

variable {name : String} (h : Schema.isAdmissibleName name)
include h

/-- Without the delimiters, letters, digits and underscores are left. -/
theorem isWordChar_of_mem_pieces {piece : List Char} (hpiece : piece ∈ pieces name) {c : Char}
    (hc : c ∈ piece) : isWordChar c := by
  have hmem : c ∈ (pieces name).flatten := List.mem_flatten.2 ⟨piece, hpiece, hc⟩
  rw [flatten_pieces, List.mem_filter] at hmem
  have hname := List.all_eq_true.1 (Bool.and_eq_true_iff.1 h).1 c hmem.1
  have hdelimiter := hmem.2
  simp only [Schema.isNameChar, isDelimiter, isWordChar, Bool.or_eq_true, Bool.not_eq_true',
    Bool.or_eq_false_iff, beq_iff_eq, beq_eq_false_iff_ne] at hname hdelimiter ⊢
  tauto

/-- What an admissible name is joined of may stand in words. -/
theorem isWordChar_of_mem_joined {c : Char} (hc : c ∈ joined name) : isWordChar c := by
  rcases mem_intercalate hc with hsep | hmem
  · rw [List.mem_singleton.1 hsep]
    decide
  · obtain ⟨piece, hpiece, hc⟩ := List.mem_flatten.1 hmem
    exact isWordChar_of_mem_pieces h hpiece hc

theorem exists_isAlphanum_mem_joined : ∃ c ∈ joined name, c.isAlphanum := by
  obtain ⟨piece, hpiece, c, hc, halpha⟩ := exists_isAlphanum_mem_pieces h
  exact ⟨c, mem_intercalate_of_mem hc hpiece, halpha⟩

/-! ### Small letters and capitals -/

/-- The joined segments make a word, whatever case mapping is put on top. -/
theorem isWord_of_map {f : Char → Char} {p : Char → Bool} {w : String}
    (hw : w.toList = (joined name).map f) (hf : ∀ c, isWordChar c → p (f c))
    (hf' : ∀ c, isWordChar c → c.isAlphanum → (f c).isAlphanum) :
    IsWord p p w ∧ ∃ c ∈ w.toList, c.isAlphanum := by
  obtain ⟨c, hc, halpha⟩ := exists_isAlphanum_mem_joined h
  have hmem : f c ∈ w.toList := hw ▸ List.mem_map_of_mem hc
  refine ⟨isWord_of_all ?_ hmem, f c, hmem, hf' c (isWordChar_of_mem_joined h hc) halpha⟩
  rw [hw, List.all_map, List.all_eq_true]
  intro c hc
  exact hf c (isWordChar_of_mem_joined h hc)

/-- A fragment is the joined name in small letters. -/
@[simp] theorem toList_fragment : (fragment name).toList = (joined name).map Char.toLower := by
  rw [fragment, String.toList_ofList, Text.lowerAll,
    Text.lowerAfter_eq_flatMap (sigma_not_mem_joined h), List.map_eq_flatMap]
  exact List.flatMap_congr fun c hc => lower_of_isWordChar (isWordChar_of_mem_joined h hc)

/-- The small-letter form is a word with a letter or digit. -/
theorem isStem_fragment : IsStem (fragment name) ∧ ∃ c ∈ (fragment name).toList, c.isAlphanum :=
  isWord_of_map h (toList_fragment h) (fun _ hc => (casing_of_isWordChar hc).1)
    fun _ hc halpha => ((casing_of_isWordChar hc).2.2 halpha).1

@[simp] theorem toList_capitals : (capitals name).toList = (joined name).map Char.toUpper := by
  rw [capitals, String.toList_ofList, Text.upperAll, List.map_eq_flatMap]
  exact List.flatMap_congr fun c hc => upper_of_isWordChar (isWordChar_of_mem_joined h hc)

/-- So is the form in capitals. -/
theorem isWord_capitals : IsWord isCapital isCapital (capitals name) ∧
    ∃ c ∈ (capitals name).toList, c.isAlphanum :=
  isWord_of_map h (toList_capitals h) (fun _ hc => (casing_of_isWordChar hc).2.1)
    fun _ hc halpha => ((casing_of_isWordChar hc).2.2 halpha).2

/-- **A constant is spelled `[A-Z_][A-Z0-9_]*`.** -/
theorem isConstantName_constant : IsConstantName (constant name) := by
  obtain ⟨hword, halpha⟩ := isWord_capitals h
  have hN : IsWord isCapitalStart isCapital "N" := ⟨'N', [], rfl, by decide, by simp⟩
  rw [constant_eq]
  split
  · exact ⟨hN.append (hword.all fun _ => id),
      ne_underscore_of_alphanum (exists_isAlphanum_append "N" halpha)⟩
  · rename_i hdigit
    exact ⟨hword.of_not_startsWithDigit (eq_false_of_ne_true hdigit) isCapitalStart_of_isCapital,
      ne_underscore_of_alphanum halpha⟩

/-! ### Segments run together -/

/-- The first character of a segment becomes a capital, and the others stay. -/
theorem exists_capitalize {piece : List Char} (hpiece : piece ∈ pieces name) :
    ∃ c cs, piece = c :: cs ∧ capitalize piece = c.toUpper :: cs ∧
      isWordChar c ∧ cs.all isWordChar := by
  have hne : piece ≠ [] := by simpa using (List.mem_filter.1 hpiece).2
  obtain ⟨c, cs, rfl⟩ := List.exists_cons_of_ne_nil hne
  have hchars : (c :: cs).all isWordChar :=
    List.all_eq_true.2 fun x => isWordChar_of_mem_pieces h hpiece
  rw [List.all_cons, Bool.and_eq_true] at hchars
  refine ⟨c, cs, rfl, ?_, hchars⟩
  rw [capitalize, upper_of_isWordChar hchars.1, List.singleton_append]

/-- The capitalized segments are a word that does not start with a small letter. -/
theorem isWord_upperCamel : IsWord isCapital isWordChar (upperCamel name) := by
  have hall : ((pieces name).flatMap capitalize).all isWordChar := by
    rw [List.all_flatMap, List.all_eq_true]
    intro piece hpiece
    obtain ⟨c, cs, -, hcapital, hc, hcs⟩ := exists_capitalize h hpiece
    rw [hcapital, List.all_cons, isWordChar_of_isCapital _ (casing_of_isWordChar hc).2.1, hcs]
    rfl
  obtain ⟨piece, rest, hpieces⟩ := List.exists_cons_of_ne_nil (pieces_ne_nil h)
  obtain ⟨c, cs, -, hcapital, hc, -⟩ := exists_capitalize h (hpieces ▸ List.mem_cons_self)
  rw [hpieces, List.flatMap_cons, hcapital, List.cons_append, List.all_cons, Bool.and_eq_true]
    at hall
  refine ⟨c.toUpper, _, ?_, (casing_of_isWordChar hc).2.1, hall.2⟩
  rw [upperCamel, String.toList_ofList, hpieces, List.flatMap_cons, hcapital, List.cons_append]

theorem exists_isAlphanum_mem_upperCamel : ∃ c ∈ (upperCamel name).toList, c.isAlphanum := by
  obtain ⟨piece, hpiece, x, hx, halpha⟩ := exists_isAlphanum_mem_pieces h
  obtain ⟨c, cs, rfl, hcapital, hc, -⟩ := exists_capitalize h hpiece
  have hmem : ∃ y ∈ capitalize (c :: cs), y.isAlphanum := by
    rw [hcapital]
    rcases List.mem_cons.1 hx with rfl | hx
    · exact ⟨_, List.mem_cons_self, ((casing_of_isWordChar hc).2.2 halpha).2⟩
    · exact ⟨x, List.mem_cons_of_mem _ hx, halpha⟩
  obtain ⟨y, hy, halpha⟩ := hmem
  refine ⟨y, ?_, halpha⟩
  rw [upperCamel, String.toList_ofList]
  exact List.mem_flatMap.2 ⟨_, hpiece, hy⟩

/-- **A type is spelled `[A-Z_][A-Za-z0-9_]*`**, and is not called `Self`. -/
theorem isTypeName_typeName : IsTypeName (typeName name) := by
  have hword := isWord_upperCamel h
  have halpha := exists_isAlphanum_mem_upperCamel h
  have hN : IsWord isCapitalStart isWordChar "N" := ⟨'N', [], rfl, by decide, by simp⟩
  rw [typeName]
  split
  · refine ⟨hN.append (hword.all isWordChar_of_isCapital),
      ne_underscore_of_alphanum (exists_isAlphanum_append "N" halpha), ?_⟩
    intro hself
    have hchars := congrArg String.toList hself
    rw [String.toList_append] at hchars
    cases hchars
  · rename_i hescape
    rw [Bool.or_eq_true, not_or, Bool.not_eq_true, beq_iff_eq] at hescape
    exact ⟨hword.of_not_startsWithDigit hescape.1 isCapitalStart_of_isCapital,
      ne_underscore_of_alphanum halpha, hescape.2⟩

end Name

/-- **A type name stays one when a capitalized word is put behind it.** -/
theorem IsTypeName.append {w u : String} (hw : IsTypeName w) (hu : IsWord isCapital isWordChar u) :
    IsTypeName (w ++ u) := by
  obtain ⟨c, cs, hc, -, -⟩ := hw.isWord
  obtain ⟨d, ds, hd, hcapital, -⟩ := id hu
  have hchars : (w ++ u).toList = c :: (cs ++ d :: ds) := by
    rw [String.toList_append, hc, hd, List.cons_append]
  refine ⟨hw.isWord.append (hu.all isWordChar_of_isCapital), ?_, ?_⟩
  · intro h
    have hnil : cs ++ d :: ds = [] := (List.cons.inj (hchars.symm.trans (congrArg _ h))).2
    simp at hnil
  · intro h
    have htail : cs ++ d :: ds = ['e', 'l', 'f'] :=
      (List.cons.inj (hchars.symm.trans (congrArg _ h))).2
    have hmem : d ∈ ['e', 'l', 'f'] := htail ▸ List.mem_append_right cs List.mem_cons_self
    have hsmall : ['e', 'l', 'f'].all (!isCapital ·) := by decide
    have hd := List.all_eq_true.1 hsmall d hmem
    rw [hcapital] at hd
    cases hd

/-! ## Fields and functions -/

/-- No word that the language keeps has an underscore. -/
theorem isFieldWord_of_underscore {w : String} (hw : IsWord isSmallStart isSmall w)
    (hunder : '_' ∈ w.toList) (halpha : ∃ c ∈ w.toList, c.isAlphanum) : IsFieldWord w := by
  have hkeyword : ∀ k ∈ keywords, '_' ∉ k.toList := by decide
  have hpath : ∀ k ∈ pathKeywords, '_' ∉ k.toList := by decide
  exact ⟨hw, ne_underscore_of_alphanum halpha,
    fun hmem => hkeyword w (mem_keywords_iff.2 (.inr (.inl hmem))) hunder,
    fun hmem => hkeyword w (mem_keywords_iff.2 (.inr (.inr hmem))) hunder,
    fun hmem => hpath w (mem_pathKeywords_iff.2 hmem) hunder⟩

/-- **A word that was escaped may name a field.** -/
theorem isRaw_or_isFieldWord_escapeField {w : String} (hw : IsStem w)
    (halpha : ∃ c ∈ w.toList, c.isAlphanum) :
    IsRaw (escapeField w) ∨ IsFieldWord (escapeField w) := by
  have hunder : IsWord isSmallStart isSmall "_" := ⟨'_', [], rfl, by decide, by simp⟩
  have hkept : ∀ k ∈ pathKeywords, startsWithDigit k.toList = false := by decide
  unfold escapeField
  split
  · rename_i hpath
    refine .inr (isFieldWord_of_underscore ?_ ?_ ?_)
    · exact (hw.of_not_startsWithDigit (hkept w (List.contains_iff_mem.1 hpath))
        isSmallStart_of_isSmall).append (by decide)
    · simp
    · obtain ⟨c, hc, halpha⟩ := halpha
      exact ⟨c, by rw [String.toList_append]; exact List.mem_append_left _ hc, halpha⟩
  · rename_i hpath
    rw [List.contains_iff_mem, mem_pathKeywords_iff] at hpath
    split
    · rename_i hkeyword
      rw [List.contains_iff_mem, mem_keywords_iff] at hkeyword
      exact .inl ⟨w, hkeyword.resolve_left fun hcrate => hpath (.inl hcrate), rfl⟩
    · rename_i hkeyword
      rw [List.contains_iff_mem, mem_keywords_iff, not_or, not_or] at hkeyword
      obtain ⟨-, hused, hheld⟩ := hkeyword
      split
      · exact .inr (isFieldWord_of_underscore (hunder.append (hw.all fun _ => id))
          (by simp) (exists_isAlphanum_append "_" halpha))
      · rename_i hdigit
        exact .inr ⟨hw.of_not_startsWithDigit (eq_false_of_ne_true hdigit) isSmallStart_of_isSmall,
          ne_underscore_of_alphanum halpha, hused, hheld, hpath⟩

/-- The name of a type stays one behind each of the suffixes. -/
theorem IsTypeName.suffixed {w : String} (hw : IsTypeName w) :
    ∀ suffix ∈ ["", "Args", "Properties", "Header"], IsTypeName (w ++ suffix) := by
  simp only [List.forall_mem_cons, List.not_mem_nil, false_imp_iff, implies_true, and_true]
  refine ⟨by rwa [String.append_empty], hw.append ?_, hw.append ?_, hw.append ?_⟩
  · exact ⟨'A', ['r', 'g', 's'], rfl, by decide, by decide⟩
  · exact ⟨'P', ['r', 'o', 'p', 'e', 'r', 't', 'i', 'e', 's'], rfl, by decide, by decide⟩
  · exact ⟨'H', ['e', 'a', 'd', 'e', 'r'], rfl, by decide, by decide⟩

/-- A stem ends the name of a function. -/
theorem IsStem.isFieldWord {w : String} (hw : IsStem w) :
    ∀ verb ∈ ["encode_", "decode_"], IsFieldWord (verb ++ w) := by
  have hchars := hw.all fun _ => id
  simp only [List.forall_mem_cons, List.not_mem_nil, false_imp_iff, implies_true, and_true]
  constructor
  · refine isFieldWord_of_underscore (IsWord.append ?_ hchars) (by simp) ⟨'e', by simp, by decide⟩
    exact ⟨'e', ['n', 'c', 'o', 'd', 'e', '_'], rfl, by decide, by decide⟩
  · refine isFieldWord_of_underscore (IsWord.append ?_ hchars) (by simp) ⟨'d', by simp, by decide⟩
    exact ⟨'d', ['e', 'c', 'o', 'd', 'e', '_'], rfl, by decide, by decide⟩

/-- **Every admitted name yields identifiers.** -/
theorem identifiers_of_checkNames {names : List String} (h : Schema.checkNames names = .ok ()) :
    (∀ name ∈ names, (IsRaw (snake name) ∨ IsFieldWord (snake name)) ∧
      IsConstantName (constant name)) ∧
    ∀ c ∈ names,
      (∀ suffix ∈ ["", "Args", "Properties", "Header"], IsTypeName (typeName c ++ suffix)) ∧
      IsStem (headerStem c) ∧
      (∀ verb ∈ ["encode_", "decode_"], IsFieldWord (verb ++ headerStem c)) ∧
      ∀ m ∈ names,
        (∀ suffix ∈ ["", "Args", "Properties", "Header"],
          IsTypeName (methodTypeName c m ++ suffix)) ∧
        IsStem (methodStem c m) ∧
        ∀ verb ∈ ["encode_", "decode_"], IsFieldWord (verb ++ methodStem c m) := by
  rw [Schema.checkNames_eq_ok_iff] at h
  refine ⟨fun name hname => ⟨?_, isConstantName_constant (h name hname)⟩, fun c hc => ?_⟩
  · obtain ⟨hstem, halpha⟩ := isStem_fragment (h name hname)
    exact isRaw_or_isFieldWord_escapeField hstem halpha
  · have htype : IsTypeName (typeName c) := isTypeName_typeName (h c hc)
    have hclass : IsStem (fragment c) := (isStem_fragment (h c hc)).1
    have hheader : IsStem (headerStem c) := hclass.append rfl
    refine ⟨htype.suffixed, hheader, hheader.isFieldWord, fun m hm => ?_⟩
    have hmethod : IsStem (fragment m) := (isStem_fragment (h m hm)).1
    have hstem : IsStem (methodStem c m) :=
      (hclass.append rfl).append (hmethod.all fun _ => id)
    exact ⟨(htype.append (isWord_upperCamel (h m hm))).suffixed, hstem, hstem.isFieldWord⟩

/-- A class that is called like a path keyword, and a method that starts with a digit. -/
theorem identifiers_of_self : Schema.checkNames ["self", "0-9"] = .ok () ∧
    methodTypeName "self" "0-9" ++ "Args" = "NSelf09Args" ∧
    IsTypeName (methodTypeName "self" "0-9" ++ "Args") ∧
    (IsRaw (snake "self") ∨ IsFieldWord (snake "self")) := by
  have hnames : Schema.checkNames ["self", "0-9"] = .ok () := by decide
  obtain ⟨hfields, htypes⟩ := identifiers_of_checkNames hnames
  obtain ⟨-, -, -, hmethods⟩ := htypes "self" (by decide)
  exact ⟨hnames, by decide, (hmethods "0-9" (by decide)).1 "Args" (by decide),
    (hfields "self" (by decide)).1⟩

end FrameSchema.Identifier
