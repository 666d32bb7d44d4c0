import FrameSchema.Proofs.IdentifierSyntax

/-!
# Proofs/IdentifierForms — a spelling is settled by the segments, and spelled like itself

The forms of a name look at its segments only, so delimiters do not matter, however many stand
between the segments and around them (`Spells`).  And a form is not changed by its own making: it
has no delimiter left, hence is one segment, whose letters already have the case that is asked for
and whose escape, if it has one, keeps it from being escaped again (`Fixes`).  Both hold for all
ASCII texts, be they admissible names or not.
-/

namespace FrameSchema.Identifier

/-! ## Segments and what joins them -/

/-- Delimiters and nothing else, if anything. -/
def IsGap (cs : List Char) : Prop := ∀ c ∈ cs, isDelimiter c = true

/-- Characters without a delimiter, at least one. -/
structure IsSegment (cs : List Char) : Prop where
  ne_nil : cs ≠ []
  clear : ∀ c ∈ cs, isDelimiter c = false

/-- The segments stand in the text in this order, with one or more delimiters between them, and with
any delimiters in front and behind. -/
inductive Spells : (segments : List (List Char)) → List Char → Prop where
  | gap {gap : List Char} (h : IsGap gap) : Spells [] gap
  | last {gap segment : List Char} (h : IsGap gap) (hsegment : IsSegment segment) :
      Spells [segment] (gap ++ segment)
  | cons {gap segment rest : List Char} {segments : List (List Char)} {d : Char} (h : IsGap gap)
      (hsegment : IsSegment segment) (hd : isDelimiter d) (hrest : Spells segments rest) :
      Spells (segment :: segments) (gap ++ (segment ++ d :: rest))

theorem IsGap.nil : IsGap [] := fun _ h => absurd h List.not_mem_nil

theorem IsGap.cons {d : Char} {gap : List Char} (hd : isDelimiter d) (h : IsGap gap) :
    IsGap (d :: gap) := List.forall_mem_cons.2 ⟨hd, h⟩

theorem IsSegment.singleton {c : Char} (hc : isDelimiter c = false) : IsSegment [c] :=
  ⟨List.cons_ne_nil c [], List.forall_mem_singleton.2 hc⟩

theorem IsSegment.cons {c : Char} {segment : List Char} (hc : isDelimiter c = false)
    (h : IsSegment segment) : IsSegment (c :: segment) :=
  ⟨List.cons_ne_nil c segment, List.forall_mem_cons.2 ⟨hc, h.clear⟩⟩

/-- Delimiters in front give empty pieces, which do not count. -/
theorem filter_splitPieces_append {gap : List Char} (h : IsGap gap) (cs : List Char) :
    ((Text.splitPieces isDelimiter (gap ++ cs)).filter fun piece => !piece.isEmpty)
      = (Text.splitPieces isDelimiter cs).filter fun piece => !piece.isEmpty := by
  induction gap with
  | nil => rfl
  | cons d gap ih =>
    obtain ⟨hd, hgap⟩ := List.forall_mem_cons.1 h
    rw [List.cons_append, Text.splitPieces_cons_delimiter hd]
    exact ih hgap

/-- A segment is the only piece of itself. -/
theorem filter_splitPieces_of_isSegment {segment : List Char} (h : IsSegment segment) :
    ((Text.splitPieces isDelimiter segment).filter fun piece => !piece.isEmpty) = [segment] := by
  rw [Text.splitPieces_of_forall_not h.clear]
  simp [h.ne_nil]

/-- The pieces of a text are the segments that it spells. -/
theorem Spells.filter_splitPieces {segments : List (List Char)} {cs : List Char}
    (h : Spells segments cs) :
    ((Text.splitPieces isDelimiter cs).filter fun piece => !piece.isEmpty) = segments := by
  induction h with
  | @gap gap h =>
    have hpieces := filter_splitPieces_append h []
    rw [List.append_nil] at hpieces
    exact hpieces
  | last h hsegment =>
    rw [filter_splitPieces_append h, filter_splitPieces_of_isSegment hsegment]
  | cons h hsegment hd _ ih =>
    rw [filter_splitPieces_append h, Text.splitPieces_append hd, List.filter_append, ih,
      filter_splitPieces_of_isSegment hsegment, List.singleton_append]

/-- **The pieces of a text are the segments that it spells.** -/
theorem Spells.pieces_eq {segments : List (List Char)} {name : String}
    (h : Spells segments name.toList) : pieces name = segments := h.filter_splitPieces

/-- A delimiter in front changes nothing. -/
theorem Spells.cons_delimiter {segments : List (List Char)} {cs : List Char} {d : Char}
    (hd : isDelimiter d) (h : Spells segments cs) : Spells segments (d :: cs) := by
  cases h with
  | gap h => exact .gap (h.cons hd)
  | last h hsegment => exact .last (h.cons hd) hsegment
  | cons h hsegment hd' hrest => exact .cons (h.cons hd) hsegment hd' hrest

/-- Another character in front starts a segment, or goes on with the first one. -/
theorem Spells.exists_cons {segments : List (List Char)} {cs : List Char} {c : Char}
    (hc : isDelimiter c = false) (h : Spells segments cs) :
    ∃ segments', Spells segments' (c :: cs) := by
  have hfirst := IsSegment.singleton hc
  cases h with
  | gap h =>
    cases cs with
    | nil => exact ⟨_, .last .nil hfirst⟩
    | cons d gap =>
      obtain ⟨hd, hgap⟩ := List.forall_mem_cons.1 h
      exact ⟨_, .cons .nil hfirst hd (.gap hgap)⟩
  | @last gap _ h hsegment =>
    cases gap with
    | nil => exact ⟨_, .last .nil (hsegment.cons hc)⟩
    | cons d gap =>
      obtain ⟨hd, hgap⟩ := List.forall_mem_cons.1 h
      exact ⟨_, .cons .nil hfirst hd (.last hgap hsegment)⟩
  | @cons gap _ _ _ _ h hsegment hd' hrest =>
    cases gap with
    | nil => exact ⟨_, .cons .nil (hsegment.cons hc) hd' hrest⟩
    | cons d gap =>
      obtain ⟨hd, hgap⟩ := List.forall_mem_cons.1 h
      exact ⟨_, .cons .nil hfirst hd (.cons hgap hsegment hd' hrest)⟩

/-- Every text spells some segments: its longest rows of characters that are no delimiters. -/
theorem exists_spells : ∀ cs : List Char, ∃ segments, Spells segments cs
  | [] => ⟨[], .gap .nil⟩
  | c :: cs => by
      obtain ⟨segments, h⟩ := exists_spells cs
      cases hc : isDelimiter c with
      | true => exact ⟨segments, h.cons_delimiter hc⟩
      | false => exact h.exists_cons hc

/-- **Every text spells its pieces**, and nothing else (`Spells.pieces_eq`). -/
theorem spells_pieces (name : String) : Spells (pieces name) name.toList := by
  obtain ⟨segments, h⟩ := exists_spells name.toList
  rwa [h.pieces_eq]

/-! ## Plain words -/

/-- An ASCII character that is no delimiter. -/
structure IsPlain (c : Char) : Prop where
  ascii : c.toNat < 128
  clear : isDelimiter c = false

/-- Case mapping does not lead out of the plain characters, and changes a character only once. -/
theorem IsPlain.casing {c : Char} (h : IsPlain c) :
    (IsPlain c.toLower ∧ c.toLower.toLower = c.toLower) ∧
      IsPlain c.toUpper ∧ c.toUpper.toUpper = c.toUpper := by
  have hall : ∀ c : Char, c.toNat < 128 → isDelimiter c = false →
      (c.toLower.toNat < 128 ∧ isDelimiter c.toLower = false ∧
          c.toLower.toLower = c.toLower) ∧
        c.toUpper.toNat < 128 ∧ isDelimiter c.toUpper = false ∧
          c.toUpper.toUpper = c.toUpper := forall_ascii (by decide)
  obtain ⟨⟨hlower, hlower', hlowered⟩, hupper, hupper', huppered⟩ := hall c h.ascii h.clear
  exact ⟨⟨⟨hlower, hlower'⟩, hlowered⟩, ⟨hupper, hupper'⟩, huppered⟩

theorem IsPlain.upper {c : Char} (h : IsPlain c) : Text.upper c = [c.toUpper] := if_pos h.ascii

theorem IsPlain.lower {c : Char} (h : IsPlain c) : Text.lower c = [c.toLower] := if_pos h.ascii

/-- Plain characters have one capital each. -/
theorem upperAll_of_isPlain {cs : List Char} (h : ∀ c ∈ cs, IsPlain c) :
    Text.upperAll cs = cs.map Char.toUpper := by
  rw [Text.upperAll, List.map_eq_flatMap]
  exact List.flatMap_congr fun c hc => (h c hc).upper

theorem lowerAll_of_isPlain {cs : List Char} (h : ∀ c ∈ cs, IsPlain c) :
    Text.lowerAll cs = cs.map Char.toLower := by
  have hsigma : 'Σ' ∉ cs := fun hmem => absurd (h 'Σ' hmem).ascii (by decide)
  rw [Text.lowerAll, Text.lowerAfter_eq_flatMap hsigma, List.map_eq_flatMap]
  exact List.flatMap_congr fun c hc => (h c hc).lower

/-- Without a delimiter a text is one segment, or none. -/
theorem pieces_of_clear {word : String} (h : ∀ c ∈ word.toList, isDelimiter c = false) :
    pieces word = if word.toList = [] then [] else [word.toList] := by
  split
  · rename_i hnil
    have hspells : Spells [] word.toList := hnil ▸ .gap .nil
    exact hspells.pieces_eq
  · rename_i hne
    have hspells : Spells [word.toList] ([] ++ word.toList) := .last .nil ⟨hne, h⟩
    exact hspells.pieces_eq

/-- A word without delimiters is joined of itself. -/
theorem joined_of_clear {word : String} (h : ∀ c ∈ word.toList, isDelimiter c = false) :
    joined word = word.toList := by
  rw [joined, pieces_of_clear h]
  split
  · rename_i hnil
    rw [hnil]
    rfl
  · exact List.intercalate_singleton

theorem upperCamel_of_clear {word : String} (h : ∀ c ∈ word.toList, isDelimiter c = false) :
    upperCamel word = String.ofList (capitalize word.toList) := by
  rw [upperCamel, pieces_of_clear h]
  split
  · rename_i hnil
    rw [hnil]
    rfl
  · rw [List.flatMap_singleton]

/-- A first character that is its own capital stays as it is. -/
theorem capitalize_eq_self {cs : List Char} (h : ∀ c ∈ cs.head?, IsPlain c ∧ c.toUpper = c) :
    capitalize cs = cs := by
  cases cs with
  | nil => rfl
  | cons c cs =>
    obtain ⟨hplain, hfixed⟩ := h c rfl
    rw [capitalize, hplain.upper, hfixed, List.singleton_append]

/-! ## Escapes -/

/-- What an escape puts around a word. -/
theorem mem_escapeField {word : String} {c : Char} (hc : c ∈ (escapeField word).toList) :
    c ∈ word.toList ∨ c ∈ ['_', 'r', '#'] := by
  unfold escapeField at hc
  split at hc
  · rw [String.toList_append, List.mem_append] at hc
    refine hc.imp_right fun hc => ?_
    rw [show c = '_' from List.mem_singleton.1 hc]
    exact List.mem_cons_self
  · split at hc
    · rw [String.toList_append, List.mem_append] at hc
      exact hc.symm.imp_right fun hc => List.mem_cons_of_mem _ hc
    · split at hc
      · rw [String.toList_append, List.mem_append] at hc
        refine hc.symm.imp_right fun hc => ?_
        rw [show c = '_' from List.mem_singleton.1 hc]
        exact List.mem_cons_self
      · exact .inl hc

/-- **An escaped word is not escaped again**: the character that an escape brings in is in no kept
word, and does not leave a digit in front. -/
@[simp] theorem escapeField_escapeField (word : String) :
    escapeField (escapeField word) = escapeField word := by
  -- Kept words are finitely many; only a word with a digit in front may be any.
  have hpaths : ∀ k ∈ pathKeywords, escapeField (k ++ "_") = k ++ "_" := by decide
  have hraw : ∀ k ∈ keywords, escapeField ("r#" ++ k) = "r#" ++ k := by decide
  have hunder : ∀ k ∈ pathKeywords ++ keywords, '_' ∉ k.toList := by decide
  rw [List.forall_mem_append] at hunder
  by_cases hpath : word ∈ pathKeywords
  · have hword : escapeField word = word ++ "_" := if_pos (List.contains_iff_mem.2 hpath)
    rw [hword, hpaths word hpath]
  · rw [← List.contains_iff_mem] at hpath
    by_cases hkeyword : word ∈ keywords
    · have hword : escapeField word = "r#" ++ word := by
        rw [escapeField, if_neg hpath, if_pos (List.contains_iff_mem.2 hkeyword)]
      rw [hword, hraw word hkeyword]
    · rw [← List.contains_iff_mem] at hkeyword
      by_cases hdigit : startsWithDigit word.toList = true
      · have hword : escapeField word = "_" ++ word := by
          rw [escapeField, if_neg hpath, if_neg hkeyword, if_pos hdigit]
        have hchars : ("_" ++ word).toList = '_' :: word.toList := String.toList_append
        have hmem : '_' ∈ ("_" ++ word).toList := hchars ▸ List.mem_cons_self
        rw [hword, escapeField, if_neg, if_neg, if_neg]
        · rw [hchars]
          exact Bool.false_ne_true
        · exact fun hcontains => hunder.2 _ (List.contains_iff_mem.1 hcontains) hmem
        · exact fun hcontains => hunder.1 _ (List.contains_iff_mem.1 hcontains) hmem
      · have hword : escapeField word = word := by
          rw [escapeField, if_neg hpath, if_neg hkeyword, if_neg hdigit]
        rw [hword, hword]

/-! ## ASCII names -/

section Ascii

variable {name : String} (h : ∀ c ∈ name.toList, c.toNat < 128)
include h

/-- The pieces of a name in ASCII are made of plain characters. -/
theorem isPlain_of_mem_pieces {piece : List Char} (hpiece : piece ∈ pieces name) {c : Char}
    (hc : c ∈ piece) : IsPlain c := by
  have hmem : c ∈ (pieces name).flatten := List.mem_flatten.2 ⟨piece, hpiece, hc⟩
  rw [flatten_pieces, List.mem_filter, Bool.not_eq_true'] at hmem
  exact ⟨h c hmem.1, hmem.2⟩

theorem isPlain_of_mem_joined {c : Char} (hc : c ∈ joined name) : IsPlain c := by
  rcases mem_intercalate hc with hsep | hmem
  · rw [List.mem_singleton.1 hsep]
    exact ⟨by decide, by decide⟩
  · obtain ⟨piece, hpiece, hc⟩ := List.mem_flatten.1 hmem
    exact isPlain_of_mem_pieces h hpiece hc

/-- A capitalized segment is plain and starts with a capital, if there is one of its letter. -/
theorem isPlain_capitalize {piece : List Char} (hpiece : piece ∈ pieces name) :
    (∀ c ∈ capitalize piece, IsPlain c) ∧ capitalize piece ≠ [] ∧
      ∀ c ∈ (capitalize piece).head?, c.toUpper = c := by
  have hne : piece ≠ [] := by simpa using (List.mem_filter.1 hpiece).2
  obtain ⟨c, cs, rfl⟩ := List.exists_cons_of_ne_nil hne
  have hplain : ∀ x ∈ c :: cs, IsPlain x := fun x hx => isPlain_of_mem_pieces h hpiece hx
  obtain ⟨hc, hcs⟩ := List.forall_mem_cons.1 hplain
  rw [capitalize, hc.upper, List.singleton_append]
  refine ⟨List.forall_mem_cons.2 ⟨hc.casing.2.1, hcs⟩, List.cons_ne_nil _ _, fun x hx => ?_⟩
  rw [← Option.some.inj hx]
  exact hc.casing.2.2

/-! ## Forms -/

/-- The form makes nothing else of this word, which has no delimiter. -/
structure Fixes (form : String → String) (word : String) : Prop where
  clear : ∀ c ∈ word.toList, isDelimiter c = false
  eq : form word = word

omit h in
theorem fixes_lowerCamel_of_isPlain {word : String} (hword : ∀ c ∈ word.toList, IsPlain c) :
    Fixes lowerCamel word := by
  have hclear : ∀ c ∈ word.toList, isDelimiter c = false := fun c hc => (hword c hc).clear
  refine ⟨hclear, ?_⟩
  rw [lowerCamel, pieces_of_clear hclear]
  by_cases hnil : word.toList = []
  · rw [if_pos hnil, ← @String.ofList_toList word, hnil]
  · rw [if_neg hnil]
    simp

theorem fixes_lowerCamel : Fixes lowerCamel (lowerCamel name) := by
  refine fixes_lowerCamel_of_isPlain fun c hc => ?_
  rw [lowerCamel] at hc
  cases hpieces : pieces name with
  | nil =>
    rw [hpieces] at hc
    cases hc
  | cons first rest =>
    rw [hpieces, String.toList_ofList, List.mem_append, List.mem_flatMap] at hc
    rcases hc with hc | ⟨piece, hpiece, hc⟩
    · exact isPlain_of_mem_pieces h (hpieces ▸ List.mem_cons_self) hc
    · exact (isPlain_capitalize h (hpieces ▸ List.mem_cons_of_mem _ hpiece)).1 c hc

/-- The characters of the capitalized segments are plain, and the first is its own capital. -/
theorem isPlain_upperCamel : (∀ c ∈ (upperCamel name).toList, IsPlain c) ∧
    ∀ c ∈ (upperCamel name).toList.head?, IsPlain c ∧ c.toUpper = c := by
  have hall : ∀ c ∈ (upperCamel name).toList, IsPlain c := by
    rw [upperCamel, String.toList_ofList, List.forall_mem_flatMap]
    exact fun piece hpiece => (isPlain_capitalize h hpiece).1
  refine ⟨hall, fun c hc => ⟨hall c (List.mem_of_mem_head? hc), ?_⟩⟩
  rw [upperCamel, String.toList_ofList] at hc
  cases hpieces : pieces name with
  | nil =>
    rw [hpieces] at hc
    cases hc
  | cons piece rest =>
    obtain ⟨-, hne, hfirst⟩ := isPlain_capitalize h (hpieces ▸ List.mem_cons_self)
    rw [hpieces, List.flatMap_cons, List.head?_append_of_ne_nil _ hne] at hc
    exact hfirst c hc

omit h in
theorem fixes_upperCamel_of_isPlain {word : String} (hword : ∀ c ∈ word.toList, IsPlain c)
    (hfirst : ∀ c ∈ word.toList.head?, IsPlain c ∧ c.toUpper = c) : Fixes upperCamel word := by
  have hclear : ∀ c ∈ word.toList, isDelimiter c = false := fun c hc => (hword c hc).clear
  refine ⟨hclear, ?_⟩
  rw [upperCamel_of_clear hclear, capitalize_eq_self hfirst, String.ofList_toList]

theorem fixes_upperCamel : Fixes upperCamel (upperCamel name) :=
  fixes_upperCamel_of_isPlain (isPlain_upperCamel h).1 (isPlain_upperCamel h).2

/-- An `N` in front keeps a type name from being escaped again. -/
theorem fixes_typeName : Fixes typeName (typeName name) := by
  obtain ⟨hall, hfirst⟩ := isPlain_upperCamel h
  rw [typeName]
  split
  · have hN : IsPlain 'N' := ⟨by decide, by decide⟩
    have hchars : ("N" ++ upperCamel name).toList = 'N' :: (upperCamel name).toList :=
      String.toList_append
    have hfixes : Fixes upperCamel ("N" ++ upperCamel name) := by
      refine fixes_upperCamel_of_isPlain ?_ ?_
      · rw [hchars]
        exact List.forall_mem_cons.2 ⟨hN, hall⟩
      · rw [hchars]
        intro c hc
        obtain rfl := Option.some.inj hc
        exact ⟨hN, by decide⟩
    have hself : "N" ++ upperCamel name ≠ "Self" := by
      intro heq
      have hlist := congrArg String.toList heq
      rw [hchars] at hlist
      cases hlist
    refine ⟨hfixes.clear, ?_⟩
    rw [typeName, hfixes.eq, hchars, if_neg]
    rw [Bool.or_eq_true, beq_iff_eq, not_or]
    exact ⟨Bool.false_ne_true, hself⟩
  · rename_i hescape
    have hfixes := fixes_upperCamel h
    refine ⟨hfixes.clear, ?_⟩
    rw [typeName, hfixes.eq, if_neg hescape]

/-- An `N` in front keeps a constant from being escaped again. -/
theorem fixes_constant : Fixes constant (constant name) := by
  have hword : ∀ c ∈ (joined name).map Char.toUpper, IsPlain c ∧ c.toUpper = c := by
    rw [List.forall_mem_map]
    exact fun c hc => (isPlain_of_mem_joined h hc).casing.2
  have hfixes : ∀ {word : String}, (∀ c ∈ word.toList, IsPlain c ∧ c.toUpper = c) →
      startsWithDigit word.toList = false → Fixes constant word := by
    intro word hword hdigit
    have hclear : ∀ c ∈ word.toList, isDelimiter c = false := fun c hc => (hword c hc).1.clear
    refine ⟨hclear, ?_⟩
    rw [constant, joined_of_clear hclear, upperAll_of_isPlain fun c hc => (hword c hc).1,
      List.map_congr_left fun c hc => (hword c hc).2, List.map_id', hdigit]
    exact String.ofList_toList
  have hchars : (constant name).toList =
      if startsWithDigit ((joined name).map Char.toUpper) then 'N' :: (joined name).map Char.toUpper
      else (joined name).map Char.toUpper := by
    rw [constant, upperAll_of_isPlain fun c => isPlain_of_mem_joined h, String.toList_ofList]
  split at hchars
  · refine hfixes ?_ ?_
    · rw [hchars]
      exact List.forall_mem_cons.2 ⟨⟨⟨by decide, by decide⟩, by decide⟩, hword⟩
    · rw [hchars]
      rfl
  · rename_i hdigit
    exact hfixes (hchars ▸ hword) (hchars ▸ eq_false_of_ne_true hdigit)

/-- No escape brings in a delimiter or a capital. -/
theorem fixes_snake : Fixes snake (snake name) := by
  have hfragment : ∀ c ∈ (fragment name).toList, IsPlain c ∧ c.toLower = c := by
    rw [fragment, String.toList_ofList, lowerAll_of_isPlain fun c => isPlain_of_mem_joined h,
      List.forall_mem_map]
    exact fun c hc => (isPlain_of_mem_joined h hc).casing.1
  have hescape : ∀ c ∈ ['_', 'r', '#'],
      (c.toNat < 128 ∧ isDelimiter c = false) ∧ c.toLower = c := by
    simp only [List.forall_mem_cons, List.not_mem_nil, false_imp_iff, implies_true, and_true]
    decide
  have hword : ∀ c ∈ (snake name).toList, IsPlain c ∧ c.toLower = c := by
    intro c hc
    rcases mem_escapeField hc with hc | hc
    · exact hfragment c hc
    · obtain ⟨⟨hascii, hclear⟩, hlower⟩ := hescape c hc
      exact ⟨⟨hascii, hclear⟩, hlower⟩
  have hclear : ∀ c ∈ (snake name).toList, isDelimiter c = false := fun c hc =>
    (hword c hc).1.clear
  have hfixed : fragment (snake name) = snake name := by
    rw [fragment, joined_of_clear hclear, lowerAll_of_isPlain fun c hc => (hword c hc).1,
      List.map_congr_left fun c hc => (hword c hc).2, List.map_id', String.ofList_toList]
  refine ⟨hclear, ?_⟩
  rw [snake, hfixed]
  exact escapeField_escapeField (fragment name)

end Ascii

/-! ## All forms -/

/-- The forms that stand alone. -/
def forms : List (String → String) := [lowerCamel, upperCamel, constant, snake, typeName]

/-- A form looks at the segments only. -/
theorem form_congr {name other : String} (h : pieces other = pieces name) :
    ∀ form ∈ forms, form other = form name := by
  have hjoined : joined other = joined name := by rw [joined, joined, h]
  have hupper : upperCamel other = upperCamel name := by rw [upperCamel, upperCamel, h]
  simp only [forms, List.forall_mem_cons, List.not_mem_nil, false_imp_iff, implies_true, and_true]
  refine ⟨?_, hupper, ?_, ?_, ?_⟩
  · rw [lowerCamel, lowerCamel, h]
  · rw [constant, constant, hjoined]
  · rw [snake, snake, fragment, fragment, hjoined]
  · rw [typeName, typeName, hupper]

theorem ne_of_clear {c : Char} (h : isDelimiter c = false) : c ≠ '-' ∧ c ≠ '.' := by
  rw [isDelimiter, Bool.or_eq_false_iff, beq_eq_false_iff_ne, beq_eq_false_iff_ne] at h
  exact h

/-- **Spellings are canonical.**  An ASCII text spells its segments, and every form makes the same
of all texts that spell these segments, whatever delimiters they are joined by or stand between; and
what a form makes has no delimiter and is not changed by the form. -/
theorem forms_canonical (name : String) (h : ∀ c ∈ name.toList, c.toNat < 128) :
    Spells (pieces name) name.toList ∧ ∀ form ∈ forms,
      form (form name) = form name ∧
      (∀ c ∈ (form name).toList, c ≠ '-' ∧ c ≠ '.') ∧
      ∀ other, Spells (pieces name) other.toList → form other = form name := by
  have hfixes : ∀ form ∈ forms, Fixes form (form name) := by
    simp only [forms, List.forall_mem_cons, List.not_mem_nil, false_imp_iff, implies_true,
      and_true]
    exact ⟨fixes_lowerCamel h, fixes_upperCamel h, fixes_constant h, fixes_snake h,
      fixes_typeName h⟩
  refine ⟨spells_pieces name, fun form hform => ⟨(hfixes form hform).eq, ?_, ?_⟩⟩
  · exact fun c hc => ne_of_clear ((hfixes form hform).clear c hc)
  · exact fun other hother => form_congr hother.pieces_eq form hform

/-- A path keyword among delimiters, as a field and as a type. -/
theorem forms_of_self : (∀ c ∈ ".self-".toList, c.toNat < 128) ∧
    Spells (pieces ".self-") "self".toList ∧
    (forms.map fun form => form ".self-") = ["self", "Self", "SELF", "self_", "NSelf"] ∧
    snake (snake ".self-") = snake ".self-" ∧ typeName (typeName ".self-") = typeName ".self-" ∧
    snake "self" = snake ".self-" := by
  have hascii : ∀ c ∈ ".self-".toList, c.toNat < 128 := by
    have hchars : ".self-".toList = ['.', 's', 'e', 'l', 'f', '-'] := rfl
    rw [hchars]
    simp only [List.forall_mem_cons, List.not_mem_nil, false_imp_iff, implies_true, and_true]
    decide
  have hspells : Spells (pieces ".self-") "self".toList := spells_pieces "self"
  obtain ⟨-, hforms⟩ := forms_canonical ".self-" hascii
  obtain ⟨hsnake, -, hsame⟩ := hforms snake (by simp [forms])
  exact ⟨hascii, hspells, by decide, hsnake, (hforms typeName (by simp [forms])).1,
    hsame "self" hspells⟩

end FrameSchema.Identifier
