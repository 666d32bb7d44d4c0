import FrameSchema.Proofs.Bindings.Lookup
import FrameSchema.Proofs.Bindings.PrintedBodies
import FrameSchema.Proofs.Codec.EncodeOutcome
import FrameSchema.Proofs.IdentifierSyntax

/-!
# Proofs/Bindings/PrintedFunctions — printing a function loses nothing that matters on the wire

All names in the functions of a schema are spelled after admissible names, so they are tokens; and
all defaults fit their kinds.  So every function of a module is readable (`readable_of_mem`), and is
told by its text from all functions, of this schema or of another, that do not say the same of
frames (`function_of_text`).
-/

namespace FrameSchema.Bindings

open Identifier (fragment snake typeName)
open Text (IsToken OneLine)

/-! ## Names -/

section Names

/-- The narrower classes of characters are made of letters, digits and underscores. -/
theorem isWordChar_of_narrow {c : Char} (h : Identifier.isSmall c ∨ Identifier.isSmallStart c ∨
    Identifier.isCapitalStart c) : Identifier.isWordChar c := by
  have hword : c.isUpper ∨ c.isLower ∨ c.isDigit ∨ c = '_' := by
    simp only [Identifier.isSmall, Identifier.isSmallStart, Identifier.isCapitalStart,
      Bool.or_eq_true, beq_iff_eq] at h
    tauto
  have halpha (h : c.isUpper ∨ c.isLower) : Identifier.isWordChar c :=
    Identifier.isWordChar_of_isAlphanum c (Bool.or_eq_true_iff.2 (.inl (Bool.or_eq_true_iff.2 h)))
  rcases hword with hupper | hlower | hdigit | rfl
  · exact halpha (.inl hupper)
  · exact halpha (.inr hlower)
  · exact Identifier.isWordChar_of_isAlphanum c (Bool.or_eq_true_iff.2 (.inr hdigit))
  · decide

/-- A word of letters, digits and underscores is a token. -/
theorem isToken_of_isWord {first rest : Char → Bool} {w : String}
    (hw : Identifier.IsWord first rest w)
    (h : ∀ c, first c ∨ rest c → Identifier.isWordChar c) : IsToken w := by
  have htoken {c : Char} (hc : first c ∨ rest c) : Text.isTokenChar c :=
    Bool.or_eq_true_iff.2 (.inl (h c hc))
  obtain ⟨c, cs, hchars, hc, hcs⟩ := hw
  refine ⟨fun hempty => ?_, ?_⟩
  · rw [hempty] at hchars
    cases hchars
  · rw [hchars, List.all_cons, htoken (.inl hc), Bool.true_and, List.all_eq_true]
    exact fun x hx => htoken (.inr (List.all_eq_true.1 hcs x hx))

variable {name : String} (h : Schema.isAdmissibleName name)
include h

theorem isToken_fragment : IsToken (fragment name) :=
  isToken_of_isWord (Identifier.isStem_fragment h).1 fun _ hc =>
    isWordChar_of_narrow (.inl (or_self_iff.1 hc))

/-- Identifiers of fields are tokens. -/
theorem isToken_snake : IsToken (snake name) := by
  obtain ⟨hstem, halpha⟩ := Identifier.isStem_fragment h
  rcases Identifier.isRaw_or_isFieldWord_escapeField hstem halpha with ⟨k, hk, hraw⟩ | hword
  · have hall : ∀ k ∈ Identifier.keywords, IsToken ("r#" ++ k) := by decide
    rw [snake, hraw]
    exact hall k (Identifier.mem_keywords_iff.2 (.inr hk))
  · exact isToken_of_isWord hword.isWord fun _ hc =>
      isWordChar_of_narrow (hc.elim (.inr ∘ .inl) .inl)

theorem isToken_typeName : IsToken (typeName name) :=
  isToken_of_isWord (Identifier.isTypeName_typeName h).isWord fun _ hc =>
    hc.elim (fun hc => isWordChar_of_narrow (.inr (.inr hc))) id

/-- Names that can be made identifiers are one line. -/
theorem oneLine_of_isAdmissibleName : OneLine name := by
  intro hmem
  have hall := List.all_eq_true.1 (Bool.and_eq_true_iff.1 h).1 _ hmem
  exact absurd hall (by decide)

end Names

section Layouts

/-- The identifier of a field is a token, for its encoder and for its decoder. -/
theorem isToken_ident {f : Layout.Field} (h : Schema.isAdmissibleName f.name) :
    IsToken (EncodeField.ofLayout f).ident ∧ IsToken (DecodeField.ofLayout f).ident := by
  -- The projections are reduced first, or both sides are unfolded down to the keywords.
  simp only [EncodeField.ofLayout, DecodeField.ofLayout, and_self]
  exact isToken_snake h

variable {schema : Schema} {m : Layout.Method} {h : Layout.Header}

/-- The names that a method layout is made of can be made identifiers. -/
theorem admissible_of_method (hm : m ∈ schema.methodLayouts) :
    Schema.isAdmissibleName m.className ∧ Schema.isAdmissibleName m.methodName ∧
      ∀ f ∈ m.fields, Schema.isAdmissibleName f.name := by
  obtain ⟨c, hc, method, hmethod, rfl⟩ := Schema.mem_methodLayouts.1 hm
  obtain ⟨hnames, -⟩ := Schema.Model.forall_mem_names_iff.1 schema.wellFormed.names
  obtain ⟨hclass, -, hmethods⟩ := hnames c hc
  obtain ⟨hname, harguments⟩ := hmethods method hmethod
  exact ⟨hclass, hname, List.forall_mem_map.2 harguments⟩

/-- The names that a header layout is made of can be made identifiers, and no property has a
default. -/
theorem admissible_of_header (hmem : h ∈ schema.headerLayouts) :
    Schema.isAdmissibleName h.className ∧
      ∀ f ∈ h.fields, Schema.isAdmissibleName f.name ∧ f.default = none := by
  obtain ⟨c, hc, rfl⟩ := Schema.mem_headerLayouts.1 hmem
  obtain ⟨hnames, -⟩ := Schema.Model.forall_mem_names_iff.1 schema.wellFormed.names
  obtain ⟨hclass, hproperties, -⟩ := hnames c hc
  exact ⟨hclass, List.forall_mem_map.2 fun p hp => ⟨hproperties p hp, rfl⟩⟩

/-- The names that are made for a method are tokens. -/
theorem isToken_of_method (hm : m ∈ schema.methodLayouts) :
    IsToken m.stem ∧ IsToken m.typeName := by
  obtain ⟨hclass, hmethod, -⟩ := admissible_of_method hm
  have hupper := isToken_of_isWord (Identifier.isWord_upperCamel hmethod) fun c hc =>
    hc.elim (Identifier.isWordChar_of_isCapital c) id
  exact ⟨((isToken_fragment hclass).append (by decide)).append (isToken_fragment hmethod).all,
    (isToken_typeName hclass).append hupper.all⟩

/-- The stem and the type of a header are tokens. -/
theorem isToken_of_header (hmem : h ∈ schema.headerLayouts) :
    IsToken h.stem ∧ IsToken h.classTypeName := by
  obtain ⟨hclass, -⟩ := admissible_of_header hmem
  exact ⟨(isToken_fragment hclass).append (by decide), isToken_typeName hclass⟩

theorem isToken_encoderName {stem : String} (h : IsToken stem) : IsToken (encoderName stem) :=
  IsToken.append (by decide) h.all

theorem isToken_decoderName {stem : String} (h : IsToken stem) : IsToken (decoderName stem) :=
  IsToken.append (by decide) h.all

/-- The route of a method can be read off its line. -/
theorem readable_methodRoute (hm : m ∈ schema.methodLayouts) : (methodRoute m).Readable := by
  obtain ⟨hstem, htype⟩ := isToken_of_method hm
  exact ⟨isToken_decoderName hstem, htype⟩

theorem readable_headerRoute (hmem : h ∈ schema.headerLayouts) : (headerRoute h).Readable := by
  obtain ⟨hstem, htype⟩ := isToken_of_header hmem
  refine ⟨isToken_decoderName hstem, ?_⟩
  -- Here, too, the projection would not be reduced first.
  simp only [headerRoute]
  exact htype

theorem oneLine_displayName (hm : m ∈ schema.methodLayouts) : OneLine m.displayName := by
  obtain ⟨hclass, hmethod, -⟩ := admissible_of_method hm
  have hdot : OneLine "." := by decide
  simp [Layout.Method.displayName, hdot, oneLine_of_isAdmissibleName hclass,
    oneLine_of_isAdmissibleName hmethod]

/-- **The encoder of a method can be read off its text.** -/
theorem readable_methodEncoder (hm : m ∈ schema.methodLayouts) : (methodEncoder m).Readable where
  name := isToken_encoderName (isToken_of_method hm).1
  doc := by
    have hnumber (n : Nat) : OneLine (toString n) := (Text.isToken_toString n).oneLine
    rw [methodEncoder, List.forall_mem_singleton]
    simp +decide only [Text.oneLine_append, hnumber, true_and, and_true]
    exact oneLine_displayName hm
  body := by
    refine ⟨(isToken_of_method hm).2.append (by decide), List.forall_mem_map.2 fun f hf => ?_⟩
    exact ⟨(isToken_ident ((admissible_of_method hm).2.2 f hf)).1, fun d hd =>
      Schema.Default.suits_of_fits (Schema.fits_of_mem_default hm hf hd)⟩

theorem readable_headerEncoder (hmem : h ∈ schema.headerLayouts) : (headerEncoder h).Readable where
  name := isToken_encoderName (isToken_of_header hmem).1
  doc := by
    have hnumber (n : Nat) : OneLine (toString n) := (Text.isToken_toString n).oneLine
    rw [headerEncoder, List.forall_mem_singleton]
    simp +decide only [Text.oneLine_append, hnumber, true_and, and_true]
    exact oneLine_of_isAdmissibleName (admissible_of_header hmem).1
  body := by
    refine ⟨(isToken_of_header hmem).2.append (by decide), List.forall_mem_map.2 fun f hf => ?_⟩
    obtain ⟨hname, hdefault⟩ := (admissible_of_header hmem).2 f hf
    exact ⟨(isToken_ident hname).1, hdefault⟩

theorem readable_methodDecoder (hm : m ∈ schema.methodLayouts) : (methodDecoder m).Readable where
  name := isToken_decoderName (isToken_of_method hm).1
  doc := by
    rw [methodDecoder, List.forall_mem_singleton]
    simp +decide only [Text.oneLine_append, true_and, and_true]
    exact oneLine_displayName hm
  body := by
    refine ⟨(isToken_of_method hm).2, List.forall_mem_map.2 fun f hf => ?_⟩
    exact (isToken_ident ((admissible_of_method hm).2.2 f hf)).2

theorem readable_headerDecoder (hmem : h ∈ schema.headerLayouts) : (headerDecoder h).Readable where
  name := isToken_decoderName (isToken_of_header hmem).1
  doc := by
    rw [headerDecoder, List.forall_mem_singleton]
    simp +decide only [Text.oneLine_append, true_and, and_true]
    exact oneLine_of_isAdmissibleName (admissible_of_header hmem).1
  body := by
    have htype := (isToken_of_header hmem).2
    refine ⟨htype.append (by decide), htype.append (by decide), ?_⟩
    exact List.forall_mem_map.2 fun f hf =>
      (isToken_ident ((admissible_of_header hmem).2 f hf).1).2

/-- **The dispatcher of methods can be read off its text.** -/
theorem readable_methodDispatcher (schema : Schema) :
    (methodDispatcher schema.methodLayouts schema.headerLayouts).Readable where
  name := (by decide : IsToken "decode_method")
  doc := by
    simp only [methodDispatcher]
    decide
  body := by
    refine ⟨by decide, List.forall_mem_map.2 fun h _ => List.forall_mem_map.2 fun m hm => ?_⟩
    exact readable_methodRoute (List.mem_of_mem_filter hm)

theorem readable_headerDispatcher (schema : Schema) :
    (headerDispatcher schema.headerLayouts).Readable where
  name := (by decide : IsToken "decode_header")
  doc := by
    simp only [headerDispatcher]
    decide
  body := by
    refine ⟨by decide, List.forall_mem_map.2 fun h hmem => ?_⟩
    exact readable_headerRoute hmem

end Layouts

/-! ## The functions of a module -/

/-- **All functions of a schema's module are readable.** -/
theorem readable_of_mem {schema : Schema} {options : Options} {f : Function}
    (hf : .function f ∈ (schema.bindings options).items) : f.Readable := by
  have hmem : f ∈ (schema.bindings options).functions := List.mem_filterMap.2 ⟨_, hf, rfl⟩
  rw [Module.functions_bindings, Module.mem_functionList_iff] at hmem
  rcases hmem with ⟨m, hm, rfl⟩ | ⟨h, hmem, rfl⟩ | ⟨m, hm, rfl⟩ | ⟨h, hmem, rfl⟩ | rfl | rfl
  · exact readable_methodEncoder hm
  · exact readable_headerEncoder hmem
  · exact readable_methodDecoder hm
  · exact readable_headerDecoder hmem
  · exact readable_methodDispatcher schema
  · exact readable_headerDispatcher schema

/-- **Printing a function loses nothing that matters on the wire.**  Functions that stand in the
modules of two schemas, for any options, have one text only if they have one name and do the same
with the same types, numbers, routes and fields; defaults may be told in different ways, but stand
for one value. -/
theorem function_of_text {schema schema' : Schema} {options options' : Options}
    {module module' : Module} (hmodule : Module.ofSchema schema options = .ok module)
    (hmodule' : Module.ofSchema schema' options' = .ok module') {f g : Function}
    (hf : .function f ∈ module.items) (hg : .function g ∈ module'.items)
    (h : (Item.function f).render = (Item.function g).render) :
    f.name = g.name ∧ f.body.Alike g.body := by
  rw [Module.ofSchema_eq] at hmodule hmodule'
  obtain rfl := Except.ok.inj hmodule
  obtain rfl := Except.ok.inj hmodule'
  exact Function.alike_of_render_eq (readable_of_mem hf) (readable_of_mem hg) h

/-- A protocol of one request with a bit, which is left out for this default. -/
def purge (d : Schema.Default) : Schema.Model where
  classes := [⟨50, "queue", [⟨10, "purge", [⟨"type", .explicit .bit, some d⟩], false, none, false⟩],
    []⟩]
  domains := []
  constants := []

/-- The request with a truth value for its default. -/
def purgeByTruth : Schema := ⟨purge (.bool false), toOption_eq_some_iff.1 (by decide +kernel)⟩

/-- The request with a number for its default. -/
def purgeByNumber : Schema := ⟨purge (.int 0), toOption_eq_some_iff.1 (by decide +kernel)⟩

/-- The layout of the request. -/
def purgeLayout (d : Schema.Default) : Layout.Method :=
  ⟨50, 10, "queue", "purge", false, false, none, [⟨"type", .bit, some d⟩]⟩

/-- The two encoders of the request are not equal, but have one text: they are alike. -/
theorem function_of_text_purge : ∃ module module',
    Module.ofSchema purgeByTruth {} = .ok module ∧
    Module.ofSchema purgeByNumber ⟨"wire", [], false⟩ = .ok module' ∧
    .function (methodEncoder (purgeLayout (.bool false))) ∈ module.items ∧
    .function (methodEncoder (purgeLayout (.int 0))) ∈ module'.items ∧
    methodEncoder (purgeLayout (.bool false)) ≠ methodEncoder (purgeLayout (.int 0)) ∧
    (methodEncoder (purgeLayout (.bool false))).body.Alike
      (methodEncoder (purgeLayout (.int 0))).body := by
  have hmodule := Module.ofSchema_eq purgeByTruth {}
  have hmodule' := Module.ofSchema_eq purgeByNumber ⟨"wire", [], false⟩
  have hf : .function (methodEncoder (purgeLayout (.bool false)))
      ∈ (purgeByTruth.bindings {}).items :=
    Module.mem_items_of_function (Module.mem_functionList_iff.2 (.inl ⟨_, by decide, rfl⟩))
  have hg : .function (methodEncoder (purgeLayout (.int 0)))
      ∈ (purgeByNumber.bindings ⟨"wire", [], false⟩).items :=
    Module.mem_items_of_function (Module.mem_functionList_iff.2 (.inl ⟨_, by decide, rfl⟩))
  exact ⟨_, _, hmodule, hmodule', hf, hg, by decide,
    (function_of_text hmodule hmodule' hf hg (by decide +kernel)).2⟩

end FrameSchema.Bindings
