import FrameSchema.Proofs.Bindings.DefaultLiterals
import FrameSchema.Proofs.Text.Token

/-!
# Proofs/Bindings/PrintedExpressions — what the expressions of encoders are read back to

The expression of a field names its variant up to a parenthesis, and its identifier up to the call
behind it or the end.  What is left is the call that puts the default in.  Its literal can be read
off it, and the literal stands for the value that is sent (`wrapped_defaultLiteral?`); the default
itself is lost, for a number may stand for a truth value.  So fields of one expression are written
alike (`encodeExpr_inj`), which is all that matters to who receives them.
-/

namespace FrameSchema.Bindings

open Text (IsToken EndsToken OneLine Flush)

/-! ## Variants and calls -/

/-- Kinds are told apart by their variants. -/
theorem variant_injective : Function.Injective Primitive.variant := by
  have hnodup : (Primitive.all.map Primitive.variant).Nodup := by decide
  have hmem : ∀ p : Primitive, p ∈ Primitive.all := by
    intro p
    cases p <;> decide
  intro p q h
  exact List.inj_on_of_nodup_map hnodup (hmem p) (hmem q) h

theorem isToken_variant (p : Primitive) : IsToken p.variant := by
  cases p <;> decide

/-- **The literal can be read off the call** that puts it in. -/
theorem unwrapCall_injective (needsClone : Bool) : Function.Injective (unwrapCall needsClone) := by
  have hown (needsClone : Bool) (literal : String) :
      unwrapCall needsClone (some literal) ≠ unwrapCall needsClone none := by
    intro h
    have hchars := congrArg String.toList h
    cases needsClone <;> simp [unwrapCall] at hchars
  intro literal literal' h
  cases literal with
  | none =>
    cases literal' with
    | none => rfl
    | some literal' => exact absurd h.symm (hown needsClone literal')
  | some literal =>
    cases literal' with
    | none => exact absurd h (hown needsClone literal)
    | some literal' =>
      cases needsClone <;> simpa [unwrapCall, String.append_assoc] using h

/-! ## Expressions -/

/-- Two fields are written alike: by one identifier, as one kind, and with one value where the
argument is left out, if there is any. -/
structure EncodeField.Alike (f g : EncodeField) : Prop where
  ident : f.ident = g.ident
  primitive : f.primitive = g.primitive
  default : f.default.map (·.value f.primitive) = g.default.map (·.value g.primitive)

/-- The identifier is a token, and a default is one that the kind admits. -/
structure EncodeField.Readable (f : EncodeField) : Prop where
  ident : IsToken f.ident
  default : ∀ d ∈ f.default, d.Suits f.primitive

/-- What is behind the identifier in the expression of a field. -/
def unwrapping (p : Primitive) (default : Option Schema.Default) : String :=
  default.elim "" fun d => unwrapCall p.storage.needsClone (defaultLiteral? d p)

/-- The expression of a field is its variant around the access and the unwrapping. -/
theorem encodeExpr_eq_unwrapping (owner ident : String) (p : Primitive)
    (default : Option Schema.Default) : encodeExpr owner ⟨ident, p, default⟩ = "FieldValue::" ++
      p.variant ++ "(" ++ fieldAccess owner ident p.storage ++ unwrapping p default ++ ")" :=
  encodeExpr_eq owner ident p default

/-- A call ends the token in front of it. -/
theorem endsToken_unwrapCall (needsClone : Bool) (literal : Option String) :
    EndsToken (unwrapCall needsClone literal) := by
  cases literal with
  | none => exact (by decide : EndsToken ".unwrap_or_default()")
  | some literal =>
    cases needsClone with
    | true => exact (EndsToken.append (by decide) _).append _
    | false => exact (EndsToken.append (by decide) _).append _

/-- **The value of a default can be read off the call** that puts it in. -/
theorem value_eq_of_unwrapping_eq {p : Primitive} {default default' : Option Schema.Default}
    (hsuits : ∀ d ∈ default, d.Suits p) (hsuits' : ∀ d ∈ default', d.Suits p)
    (h : unwrapping p default = unwrapping p default') :
    default.map (·.value p) = default'.map (·.value p) := by
  have hne (d : Schema.Default) : unwrapping p (some d) ≠ unwrapping p none := by
    intro heq
    have hends : EndsToken (unwrapping p (some d)) := endsToken_unwrapCall _ _
    rw [heq] at hends
    exact absurd hends (by decide : ¬EndsToken "")
  cases default with
  | none =>
    cases default' with
    | none => rfl
    | some d' => exact absurd h.symm (hne d')
  | some d =>
    cases default' with
    | none => exact absurd h (hne d)
    | some d' =>
      have hliteral : defaultLiteral? d p = defaultLiteral? d' p := unwrapCall_injective _ h
      rw [Option.map_some, Option.map_some, ← wrapped_defaultLiteral? (hsuits d rfl), hliteral,
        wrapped_defaultLiteral? (hsuits' d' rfl)]

/-- **The expression of an encoder's field gives the field away**, up to what is written. -/
theorem encodeExpr_inj {owner : String} {f g : EncodeField} (hf : f.Readable) (hg : g.Readable)
    (h : encodeExpr owner f = encodeExpr owner g) : f.Alike g := by
  obtain ⟨ident, p, default⟩ := f
  obtain ⟨ident', p', default'⟩ := g
  simp only [encodeExpr_eq_unwrapping, fieldAccess, String.append_assoc,
    String.append_right_inj] at h
  obtain ⟨hp, h⟩ := (isToken_variant p).append_inj (isToken_variant p') (.append (by decide) _)
    (.append (by decide) _) h
  obtain rfl := variant_injective hp
  simp only [String.append_right_inj] at h
  have hends (default : Option Schema.Default) : EndsToken ((if p.storage.needsClone then ".clone()"
      else "") ++ (unwrapping p default ++ ")")) := by
    split
    · exact .append (by decide) _
    · rw [String.empty_append]
      cases default with
      | none => exact (by decide : EndsToken ")")
      | some d => exact (endsToken_unwrapCall ..).append _
  obtain ⟨rfl, hbehind⟩ := hf.ident.append_inj hg.ident (hends default) (hends default') h
  have hcalls : unwrapping p default = unwrapping p default' :=
    (String.append_left_inj ")").1 ((String.append_right_inj _).1 hbehind)
  exact ⟨rfl, rfl, value_eq_of_unwrapping_eq hf.default hg.default hcalls⟩

/-- The expression of a property gives its identifier and its kind away. -/
theorem optionalExpr_inj {f g : EncodeField} (hf : IsToken f.ident) (hg : IsToken g.ident)
    (h : optionalExpr f = optionalExpr g) : f.ident = g.ident ∧ f.primitive = g.primitive := by
  have hends (needsClone : Bool) (rest : String) : EndsToken
      ((if needsClone then ".clone()" else "") ++ (".map(FieldValue::" ++ rest)) := by
    cases needsClone with
    | true => exact .append (by decide) _
    | false => exact (EndsToken.append (by decide) _ : EndsToken (".map(FieldValue::" ++ rest))
  have hcalls {needsClone needsClone' : Bool} {rest rest' : String}
      (h : (if needsClone then ".clone()" else "") ++ (".map(FieldValue::" ++ rest) =
        (if needsClone' then ".clone()" else "") ++ (".map(FieldValue::" ++ rest')) :
      rest = rest' := by
    have hchars := congrArg String.toList h
    refine String.toList_inj.1 ?_
    by_cases hclone : needsClone = needsClone'
    · subst hclone
      simpa using hchars
    · cases needsClone <;> cases needsClone' <;> simp at hchars hclone
  simp only [optionalExpr, fieldAccess, String.append_assoc, String.append_right_inj] at h
  obtain ⟨hident, h⟩ := hf.append_inj hg (hends _ _) (hends _ _) h
  exact ⟨hident, variant_injective ((String.append_left_inj _).1 (hcalls h))⟩

/-! ## Lines -/

/-- A text without line breaks is one line. -/
theorem oneLine_of_lineBreaks {s : String} (h : Text.lineBreaks s = []) : OneLine s := by
  intro hmem
  exact absurd rfl (List.filter_eq_nil_iff.1 h _ hmem)

theorem lineBreaks_of_isToken {s : String} (h : IsToken s) : Text.lineBreaks s = [] := by
  rw [Text.lineBreaks, List.filter_eq_nil_iff]
  intro c hc hbreak
  have htoken := List.all_eq_true.1 h.all c hc
  rcases Bool.or_eq_true_iff.1 hbreak with h | h
  · rw [eq_of_beq h] at htoken
    exact absurd htoken (by decide)
  · rw [eq_of_beq h] at htoken
    exact absurd htoken (by decide)

/-- The expression of a field stands on a line of its own. -/
theorem flush_encodeExpr {owner : String} {f : EncodeField} (howner : IsToken owner)
    (hf : IsToken f.ident) : Flush (encodeExpr owner f) := by
  have hone : OneLine (encodeExpr owner f) := oneLine_of_lineBreaks (by
    rw [lineBreaks_encodeExpr, lineBreaks_of_isToken howner, lineBreaks_of_isToken hf]
    rfl)
  obtain ⟨ident, p, default⟩ := f
  simp only [encodeExpr_eq_unwrapping, String.append_assoc] at hone ⊢
  exact .append (by decide) (Text.oneLine_append.1 hone).2

theorem flush_optionalExpr {f : EncodeField} (hf : IsToken f.ident) : Flush (optionalExpr f) := by
  have haccess : Flush (fieldAccess "properties" f.ident f.primitive.storage) := by
    refine .append (.append (by decide : Flush ("properties" ++ ".")) hf.oneLine) ?_
    split
    · decide
    · decide
  exact .append (.append (haccess.append (by decide)) (isToken_variant _).oneLine) (by decide)

end FrameSchema.Bindings
