import FrameSchema.CommandLine.Outcome
import FrameSchema.Proofs.Bindings.Lookup
import Mathlib.Algebra.Order.BigOperators.Group.List
import Mathlib.Algebra.Order.Group.Nat
import Mathlib.Algebra.Ring.Nat

/-!
# Proofs/Bindings/Labels — what the labels of constants do to generated source

The class that a constant is grouped under is only a remark: it is shown in a comment above the
constant and nowhere else.  But a source is text, and its lines are what line feeds make of it.  A
label with a line feed opens lines behind its comment, and these are code unless they start like
comments themselves.  So labels leave the code alone exactly where all lines of their comments are
comments (`codeLines_bindings_eq_iff`), as they are if there is no line feed in them.
-/

namespace FrameSchema.Bindings

/-! ## Lines of a text -/

/-- The lines of a text, as line feeds separate them. -/
def textLines (text : String) : List (List Char) := Text.splitPieces (· == '\n') text.toList

/-- A line whose first characters that are not blank are three slashes. -/
def isComment (line : List Char) : Bool :=
  "///".toList.isPrefixOf (line.dropWhile Char.isWhitespace)

/-- The lines of a text without its comments. -/
def codeLines (text : String) : List (List Char) := (textLines text).filter (!isComment ·)

/-- Code lines are told line feed by line feed. -/
@[simp] theorem codeLines_append (text rest : String) :
    codeLines (text ++ "\n" ++ rest) = codeLines text ++ codeLines rest := by
  have hfeed : (text ++ "\n" ++ rest).toList = text.toList ++ '\n' :: rest.toList := by
    rw [String.toList_append, String.toList_append, List.append_assoc]
    rfl
  rw [codeLines, textLines, hfeed, Text.splitPieces_append (by decide), List.filter_append]
  rfl

/-- What is code of a line of source; a text with line feeds makes several lines. -/
def Line.code (line : Line) : List (List Char) :=
  codeLines (String.ofList (List.replicate (4 * line.depth) ' ') ++ line.text)

/-- **The code of a source is that of its lines**, one after another; behind the last line feed
stands an empty line. -/
@[simp] theorem codeLines_renderLines : ∀ lines : List Line,
    codeLines (renderLines lines) = lines.flatMap Line.code ++ [[]]
  | [] => by decide
  | line :: lines => by
      rw [renderLines, List.map_cons, String.join_cons, Line.render, ← renderLines]
      simp [codeLines_renderLines lines, Line.code]

/-- The code of a declaration, behind the empty line above it. -/
def Item.code (item : Item) : List (List Char) :=
  (.empty :: item.lines : List Line).flatMap Line.code

/-- The code of a module is that of its head and of its items, and an empty line. -/
theorem codeLines_render (m : Module) : codeLines m.render =
    (headingLines m.runtimePath).flatMap Line.code ++ m.items.flatMap Item.code ++ [[]] := by
  rw [Module.render, codeLines_renderLines, Module.lines, List.flatMap_append, List.flatMap_assoc]
  rfl

/-! ## Labels -/

/-- The comment that shows a label. -/
def labelComment (label : String) : String := s!"/// Class: `{label}`."

/-- A label whose comment is nothing but comment lines. -/
def KeepsToComment (label : String) : Prop :=
  ∀ line ∈ textLines (labelComment label), isComment line

instance (label : String) : Decidable (KeepsToComment label) :=
  inferInstanceAs (Decidable (∀ line ∈ textLines (labelComment label), isComment line))

/-- **A label without a line feed keeps to its comment.** -/
theorem keepsToComment_of_not_mem {label : String} (h : '\n' ∉ label.toList) :
    KeepsToComment label := by
  have hcomment : (labelComment label).toList
      = "/// Class: `".toList ++ (label.toList ++ "`.".toList) := by
    simp only [labelComment, String.toList_append, List.append_assoc]
    rfl
  have hline : textLines (labelComment label) = [(labelComment label).toList] := by
    refine Text.splitPieces_of_forall_not fun c hc => ?_
    rw [hcomment, List.mem_append, List.mem_append] at hc
    refine beq_false_of_ne fun hfeed => ?_
    subst hfeed
    rcases hc with hfront | hlabel | hback
    · exact absurd hfront (by decide)
    · exact h hlabel
    · exact absurd hback (by decide)
  rw [KeepsToComment, hline, List.forall_mem_singleton, hcomment]
  rfl

/-- **A label leaves no code exactly if none of its line feeds leaves the comment.** -/
theorem codeLines_labelComment_eq_nil_iff {label : String} :
    codeLines (labelComment label) = [] ↔ KeepsToComment label := by
  rw [codeLines, List.filter_eq_nil_iff, KeepsToComment]
  exact forall₂_congr fun line _ => by rw [Bool.not_eq_true, Bool.not_eq_false']

/-! ## Constants -/

/-- What is code of the comment above a constant. -/
def spilled (c : Schema.Constant) : List (List Char) :=
  (c.className.map fun label => codeLines (labelComment label)).getD []

theorem spilled_eq_nil_iff {c : Schema.Constant} :
    spilled c = [] ↔ ∀ label ∈ c.className, KeepsToComment label := by
  rw [spilled]
  cases c.className with
  | none => simp
  | some label => simp [codeLines_labelComment_eq_nil_iff]

end FrameSchema.Bindings

namespace FrameSchema.Schema

/-- The constant without its label. -/
def Constant.unlabelled (c : Constant) : Constant := { c with className := none }

/-- The model without the labels of its constants. -/
def Model.unlabelled (model : Model) : Model :=
  { model with constants := model.constants.map Constant.unlabelled }

/-- Labels have no part in the check of constants. -/
@[simp] theorem checkConstants_unlabelled : ∀ (taken : TakenNames) (constants : List Constant),
    checkConstants taken (constants.map Constant.unlabelled) = checkConstants taken constants
  | _, [] => rfl
  | taken, c :: constants => by
      rw [List.map_cons, checkConstants, checkConstants]
      exact bind_congr fun after => checkConstants_unlabelled after constants

/-- **Labels are not checked**: with any, a model passes if it passes without. -/
@[simp] theorem Model.check_unlabelled (model : Model) : model.unlabelled.check = model.check := by
  have hnames : model.unlabelled.names = model.names := by
    simp only [names, unlabelled, List.map_map]
    rfl
  have hcollisions : checkCollisions model.unlabelled = checkCollisions model := by
    rw [checkCollisions, checkCollisions, unlabelled, checkConstants_unlabelled]
  rw [check, check, hnames, hcollisions]
  rfl

end FrameSchema.Schema

namespace FrameSchema.Bindings

/-- The code generated for a constant of a schema. -/
def constantCode (c : Schema.Constant) : List (List Char) := Item.code (.constant (.ofSchema c))

@[simp] theorem Line.code_zero (text : String) : Line.code ⟨0, text⟩ = codeLines text := by
  rw [Line.code, Nat.mul_zero, List.replicate_zero, String.ofList_nil, String.empty_append]

@[simp] theorem Line.code_empty : Line.code .empty = [[]] := by decide

/-- **What a label spills stands in front of the constant**, and nothing else changes. -/
theorem constantCode_eq (c : Schema.Constant) :
    constantCode c = [] :: (spilled c ++ (constantCode c.unlabelled).tail) := by
  obtain ⟨name, value, className⟩ := c
  simp only [constantCode, Item.code, Item.lines, Constant.lines, Constant.ofSchema,
    Schema.Constant.unlabelled, List.flatMap_cons, Line.code_empty, List.flatMap_append,
    List.singleton_append, List.tail_cons, List.flatMap_nil, List.nil_append]
  cases className with
  | none => rfl
  | some label =>
    simp only [spilled, Option.map_some, Option.getD_some, List.flatMap_cons, List.flatMap_nil,
      List.append_nil, Line.code_zero]
    rfl

theorem constantCode_unlabelled (c : Schema.Constant) :
    constantCode c.unlabelled = [] :: (constantCode c.unlabelled).tail := by
  have hspilled : spilled c.unlabelled = [] := rfl
  have htwice : c.unlabelled.unlabelled = c.unlabelled := rfl
  have hcode := constantCode_eq c.unlabelled
  rwa [hspilled, htwice, List.nil_append] at hcode

/-- A label that spills nothing leaves the code as it is without it. -/
theorem constantCode_of_spilled_eq_nil {c : Schema.Constant} (h : spilled c = []) :
    constantCode c = constantCode c.unlabelled := by
  rw [constantCode_eq c, h, List.nil_append, ← constantCode_unlabelled]

/-- A label adds the code that it spills, and no other. -/
theorem length_constantCode (c : Schema.Constant) :
    (constantCode c).length = (spilled c).length + (constantCode c.unlabelled).length := by
  rw [constantCode_eq c, constantCode_unlabelled c, List.length_cons, List.length_append,
    List.length_cons, List.tail_cons, Nat.add_assoc]

/-- The code generated for constants. -/
def constantsCode (constants : List Schema.Constant) : List (List Char) :=
  constants.flatMap constantCode

theorem constantsCode_of_spilled_eq_nil {constants : List Schema.Constant}
    (h : ∀ c ∈ constants, spilled c = []) :
    constantsCode constants = constantsCode (constants.map Schema.Constant.unlabelled) := by
  rw [constantsCode, constantsCode, List.flatMap_map]
  exact List.flatMap_congr fun c hc => constantCode_of_spilled_eq_nil (h c hc)

/-- Labels add the code that they spill, label by label. -/
theorem length_constantsCode (constants : List Schema.Constant) :
    (constantsCode constants).length = (constants.map fun c => (spilled c).length).sum +
      (constantsCode (constants.map Schema.Constant.unlabelled)).length := by
  rw [constantsCode, constantsCode, List.flatMap_map, List.length_flatMap, List.length_flatMap,
    ← List.sum_map_add]
  exact congrArg List.sum (List.map_congr_left fun c _ => length_constantCode c)

/-- **Constants have the code of those without labels exactly if no label spills any.** -/
theorem constantsCode_eq_unlabelled_iff {constants : List Schema.Constant} :
    constantsCode constants = constantsCode (constants.map Schema.Constant.unlabelled) ↔
      ∀ c ∈ constants, spilled c = [] := by
  refine ⟨fun h c hc => ?_, constantsCode_of_spilled_eq_nil⟩
  have hlength := length_constantsCode constants
  rw [h, Nat.right_eq_add, List.sum_eq_zero_iff] at hlength
  exact List.eq_nil_of_length_eq_zero (hlength _ (List.mem_map_of_mem hc))

/-! ## Whole modules -/

variable {schema schema' : Schema} {options : Options}

/-- What stands behind the constants of a module. -/
def frameItems (schema : Schema) (options : Options) : List Item :=
  typeItems options schema.methodLayouts schema.headerLayouts ++
    encoderItems schema.methodLayouts schema.headerLayouts ++
    decoderItems schema.methodLayouts schema.headerLayouts

/-- Labels do not reach the layouts of frames. -/
theorem frameItems_eq (h : schema.toModel.unlabelled = schema'.toModel.unlabelled) :
    frameItems schema options = frameItems schema' options := by
  have hmethods : Layout.methods schema.toModel = Layout.methods schema'.toModel := by
    change Layout.methods schema.toModel.unlabelled = Layout.methods schema'.toModel.unlabelled
    rw [h]
  rw [schema.layoutMethods_eq, schema'.layoutMethods_eq, Except.ok.injEq] at hmethods
  have hheaders : schema.headerLayouts = schema'.headerLayouts := by
    change Layout.headers schema.toModel.unlabelled = Layout.headers schema'.toModel.unlabelled
    rw [h]
  rw [frameItems, frameItems, hmethods, hheaders]

/-- Of the code of a module only that of the constants depends on labels. -/
theorem codeLines_bindings : codeLines (schema.bindings options).render =
    (headingLines options.runtimePath).flatMap Line.code ++
      ((if options.emitConstants then constantsCode schema.constants else []) ++
        ((frameItems schema options).flatMap Item.code ++ [[]])) := by
  have hitems : (schema.bindings options).items
      = constantItems options schema.toModel ++ frameItems schema options := by
    rw [Schema.bindings, frameItems, List.append_assoc, List.append_assoc, List.append_assoc]
  have hconstants : (constantItems options schema.toModel).flatMap Item.code
      = if options.emitConstants then constantsCode schema.constants else [] := by
    rw [constantItems]
    split
    · rw [List.flatMap_map]
      rfl
    · rfl
  rw [codeLines_render, hitems, List.flatMap_append, hconstants, List.append_assoc,
    List.append_assoc]
  rfl

/-- **Beside a schema whose labels keep to their comments, another has the same code exactly if
its labels do, too**, or no constants are wanted. -/
theorem codeLines_bindings_eq_iff (h : schema.toModel.unlabelled = schema'.toModel.unlabelled)
    (hkeep : ∀ c ∈ schema'.constants, spilled c = []) :
    codeLines (schema.bindings options).render = codeLines (schema'.bindings options).render ↔
      (options.emitConstants → ∀ c ∈ schema.constants, spilled c = []) := by
  have hconstants : schema.constants.map Schema.Constant.unlabelled
      = schema'.constants.map Schema.Constant.unlabelled := congrArg Schema.Model.constants h
  rw [codeLines_bindings, codeLines_bindings, frameItems_eq h, List.append_cancel_left_eq,
    List.append_cancel_right_eq]
  cases options.emitConstants with
  | false => simp
  | true =>
    simp only [if_true, forall_const]
    rw [constantsCode_of_spilled_eq_nil hkeep, ← hconstants, constantsCode_eq_unlabelled_iff]

theorem keepsToComment_iff_spilled {constants : List Schema.Constant} :
    (∀ c ∈ constants, ∀ label ∈ c.className, KeepsToComment label) ↔
      ∀ c ∈ constants, spilled c = [] :=
  forall₂_congr fun _ _ => spilled_eq_nil_iff.symm

theorem sourceOf_eq (schema : Schema) (options : Options) :
    CommandLine.sourceOf schema options = .ok (schema.bindings options).render := by
  rw [CommandLine.sourceOf, Module.ofSchema_eq]
  rfl

/-- **A label leaves the code alone exactly where its comment has no line but comments.**  Take two
schemas that differ in the labels of their constants only, and let those of the second keep to their
comments.  Both have a source, and the two agree in all lines that are no comments if and only if
the labels of the first keep to their comments, too, or no constants are wanted.  In particular they
agree if there is no line feed in the labels. -/
theorem codeLines_eq_iff_keepsToComment (schema schema' : Schema) (options : Options)
    (hsame : schema.toModel.unlabelled = schema'.toModel.unlabelled)
    (hkeep : ∀ c ∈ schema'.constants, ∀ label ∈ c.className, KeepsToComment label) :
    ∃ source source', CommandLine.sourceOf schema options = .ok source ∧
      CommandLine.sourceOf schema' options = .ok source' ∧
      (codeLines source = codeLines source' ↔ (options.emitConstants →
        ∀ c ∈ schema.constants, ∀ label ∈ c.className, KeepsToComment label)) ∧
      ((∀ c ∈ schema.constants, ∀ label ∈ c.className, '\n' ∉ label.toList) →
        codeLines source = codeLines source') := by
  rw [keepsToComment_iff_spilled] at hkeep
  refine ⟨_, _, sourceOf_eq schema options, sourceOf_eq schema' options, ?_, fun hfeed => ?_⟩
  · rw [codeLines_bindings_eq_iff hsame hkeep, keepsToComment_iff_spilled]
  · rw [codeLines_bindings_eq_iff hsame hkeep, ← keepsToComment_iff_spilled]
    exact fun _ c hc label hlabel => keepsToComment_of_not_mem (hfeed c hc label hlabel)

/-- A schema of one constant. -/
def frameError (label : Option String) : Schema where
  classes := []
  domains := []
  constants := [⟨"frame-error", 501, label⟩]
  checked := by
    rw [← Schema.Model.check_unlabelled]
    change (Schema.Model.mk [] [] [⟨"frame-error", 501, none⟩]).check = .ok ()
    exact toOption_eq_some_iff.1 (by decide +kernel)

/-- A label of one line leaves the code alone. -/
theorem codeLines_softError : KeepsToComment "soft error" ∧
    ∃ source source', CommandLine.sourceOf (frameError (some "soft error")) {} = .ok source ∧
      CommandLine.sourceOf (frameError none) {} = .ok source' ∧
      codeLines source = codeLines source' := by
  have hlabel : KeepsToComment "soft error" := keepsToComment_of_not_mem (by decide)
  obtain ⟨source, source', hsource, hsource', -, hcode⟩ :=
    codeLines_eq_iff_keepsToComment (frameError (some "soft error")) (frameError none) {} rfl
      (by simp [frameError])
  refine ⟨hlabel, source, source', hsource, hsource', hcode fun c hc label hlabel => ?_⟩
  obtain rfl := List.mem_singleton.1 hc
  obtain rfl := Option.some.inj hlabel
  decide

/-- **A label with a line feed changes the code**: what stands behind the line feed becomes a line
of its own, which is no comment. -/
theorem codeLines_brokenLabel : ∃ source source',
    CommandLine.sourceOf (frameError (some "soft\nerror")) {} = .ok source ∧
      CommandLine.sourceOf (frameError none) {} = .ok source' ∧
      (frameError (some "soft\nerror")).unlabelled = (frameError none).unlabelled ∧
      "error`.".toList ∈ codeLines source ∧ codeLines source ≠ codeLines source' := by
  have hsame : (frameError (some "soft\nerror")).unlabelled = (frameError none).unlabelled := rfl
  have hkeep : ∀ c ∈ (frameError none).constants, spilled c = [] := by simp [frameError, spilled]
  refine ⟨_, _, sourceOf_eq _ _, sourceOf_eq _ _, hsame, ?_, fun hcode => ?_⟩
  · rw [codeLines_bindings]
    exact List.mem_append_right _ (List.mem_append_left _ (by decide +kernel))
  · have hspilled := (codeLines_bindings_eq_iff hsame hkeep).1 hcode rfl _ List.mem_cons_self
    exact absurd hspilled (by decide)

end FrameSchema.Bindings
