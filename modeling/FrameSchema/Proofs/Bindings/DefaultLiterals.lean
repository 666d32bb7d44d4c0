import FrameSchema.Bindings.Expression
import FrameSchema.Proofs.Schema.Acceptance
import FrameSchema.Proofs.Text.Quoted
import FrameSchema.Wire.Extraction
import Mathlib.Algebra.Ring.Nat

/-!
# Proofs/Bindings/DefaultLiterals — generated code names the default that the codec sends

The encoder of a method stands in generated code as an expression for each field.  Where a field
has a default, the expression unwraps it with a literal, and here the literal is read as a compiler
reads it: a number in the range of its type, a truth value, or a quoted text made into an owned one.
What is read is the payload of `Schema.Default.value` (`wrapped_defaultLiteral?`), so an empty field
is sent alike by generated code and by the codec.
-/

namespace FrameSchema.Bindings

/-! ## Literals -/

/-- A decimal literal. -/
def decimal? (literal : String) : Option Nat :=
  if literal ≠ "" ∧ literal.toList.all Char.isDigit then
    some (Nat.ofDigitChars 10 literal.toList 0)
  else none

/-- A decimal literal of an unsigned type of some bits, which has to have room for it. -/
def number? (bits : Nat) (literal : String) : Option Nat :=
  (decimal? literal).filter (· < 2 ^ bits)

/-- A truth value. -/
def truth? (literal : String) : Option Bool :=
  if literal = "true" then some true else if literal = "false" then some false else none

/-- A quoted text made into an owned one: the quoted text has to end right in front of the
parenthesis that closes the call. -/
def ownedText? (literal : String) : Option String := do
  let quoted ← "String::from(".toList.isPrefixOf? literal.toList
  let (text, rest) ← Text.readQuoted quoted
  if rest = [')'] then some text else none

/-- The value of a literal at a storage type; tables have none. -/
def literal? : (storage : Storage) → String → Option (Wire.StoredValue storage)
  | .u8, literal => (number? 8 literal).map UInt8.ofNat
  | .u16, literal => (number? 16 literal).map UInt16.ofNat
  | .u32, literal => (number? 32 literal).map UInt32.ofNat
  | .u64, literal => (number? 64 literal).map UInt64.ofNat
  | .bool, literal => truth? literal
  | .text, literal => ownedText? literal
  | .table, _ => none

/-! ## Unwrapping -/

/-- The default of a storage type itself. -/
def ownDefault : (storage : Storage) → Wire.StoredValue storage
  | .u8 => (0 : UInt8)
  | .u16 => (0 : UInt16)
  | .u32 => (0 : UInt32)
  | .u64 => (0 : UInt64)
  | .bool => false
  | .text => ""
  | .table => Wire.Table.empty

/-- How a field is unwrapped: with a value, with a value that is made when it is needed, or with the
default of its type. -/
inductive Unwrap where
  | eager (literal : String)
  | delayed (literal : String)
  | own
  deriving DecidableEq, Repr

namespace Unwrap

/-- The call. -/
def call : Unwrap → String
  | .eager literal => ".unwrap_or(" ++ literal ++ ")"
  | .delayed literal => ".unwrap_or_else(|| " ++ literal ++ ")"
  | .own => ".unwrap_or_default()"

/-- What an empty field is unwrapped to. -/
def value? (storage : Storage) : Unwrap → Option (Wire.StoredValue storage)
  | .eager literal | .delayed literal => literal? storage literal
  | .own => some (ownDefault storage)

/-- The way in which a default is put in the place of an empty field. -/
def ofLiteral (needsClone : Bool) : Option String → Unwrap
  | some literal => if needsClone then .delayed literal else .eager literal
  | none => .own

@[simp] theorem call_ofLiteral (needsClone : Bool) (literal : Option String) :
    (ofLiteral needsClone literal).call = unwrapCall needsClone literal := by
  cases literal with
  | none => rfl
  | some literal => cases needsClone <;> rfl

@[simp] theorem value?_ofLiteral (storage : Storage) (needsClone : Bool) (literal : String) :
    (ofLiteral needsClone (some literal)).value? storage = literal? storage literal := by
  cases needsClone <;> rfl

theorem ofLiteral_eq_own_iff {needsClone : Bool} {literal : Option String} :
    ofLiteral needsClone literal = .own ↔ literal = none := by
  cases literal with
  | none => simp [ofLiteral]
  | some literal => cases needsClone <;> simp [ofLiteral]

end Unwrap

/-- The value that a variant makes of what is stored for its kind. -/
def wrapped : (kind : Primitive) → Wire.StoredValue kind.storage → Wire.Value
  | .octet, v => .octet v
  | .short, v => .short v
  | .long, v => .long v
  | .longlong, v => .longlong v
  | .bit, v => .bit v
  | .shortstr, v => .shortstr v
  | .longstr, v => .longstr v
  | .table, v => .table v
  | .timestamp, v => .timestamp v

/-! ## Literals of defaults -/

section Numbers

variable {v : Int64}

/-- A number is read off its digits. -/
theorem decimal?_toString (n : Nat) : decimal? (toString n) = some n := by
  have hdigits : (toString n).toList = Nat.toDigits 10 n := by
    rw [Nat.toString_eq_ofList_toDigits, String.toList_ofList]
  have hall : (Nat.toDigits 10 n).all Char.isDigit :=
    List.all_eq_true.2 fun c hc => Nat.isDigit_of_mem_toDigits (by decide) (by decide) hc
  have hne : toString n ≠ "" := by
    intro h
    rw [h] at hdigits
    exact Nat.toDigits_ne_nil hdigits.symm
  rw [decimal?, hdigits, if_pos ⟨hne, hall⟩, Nat.ofDigitChars_ten_toDigits]

/-- A number that its type has room for is read off its literal. -/
theorem number?_numberLiteral {bits : Nat} (low : 0 ≤ v.toInt) (high : v.toInt < 2 ^ bits) :
    number? bits (numberLiteral v) = some v.toUInt64.toNat := by
  obtain ⟨n, hn⟩ := Int.eq_ofNat_of_zero_le low
  have hlt : n < 2 ^ bits := by
    rw [hn] at high
    exact_mod_cast high
  have hliteral : numberLiteral v = toString n := by
    rw [numberLiteral, hn]
    rfl
  rw [Schema.toNat_toUInt64 low, number?, hliteral, decimal?_toString, hn]
  simpa using hlt

end Numbers

@[simp] theorem truth?_truthLiteral : ∀ b : Bool, truth? (truthLiteral b) = some b
  | true => rfl
  | false => rfl

/-- A quoted text is made into the text itself, whatever characters stand as they are. -/
@[simp] theorem ownedText?_quoteBy (visible : Char → Bool) (s : String) :
    ownedText? ("String::from(" ++ Text.quoteBy visible s ++ ")") = some s := by
  have hread : "String::from(".toList.isPrefixOf?
      ("String::from(" ++ Text.quoteBy visible s ++ ")").toList
        = some ((Text.quoteBy visible s).toList ++ [')']) := by
    simp
  rw [ownedText?, hread]
  simp [Text.readQuoted_quoteBy]

/-- The literal of a number in the range of a type of 64 bits. -/
theorem literal?_u64 {v : Int64} (low : 0 ≤ v.toInt) :
    literal? .u64 (numberLiteral v) = some v.toUInt64 := by
  rw [literal?, number?_numberLiteral low (Int.lt_trans v.toInt_lt (by decide)), Option.map_some,
    UInt64.ofNat_toNat]

/-- The literal of a text; the empty text has none. -/
theorem value?_textLiteral (s : String) (kind : Primitive) :
    (Unwrap.ofLiteral true (defaultLiteral? (.str s) kind)).value? .text = some s := by
  rw [defaultLiteral?]
  split
  · rename_i hempty
    rw [String.isEmpty_iff.1 hempty]
    rfl
  · rw [Unwrap.value?_ofLiteral, literal?, Text.quote_eq_quoteBy, ownedText?_quoteBy]

/-- **A default is put into words by its value**: the literal that stands for it is that of the
payload, and where there is none the type's own default is the payload. -/
theorem wrapped_defaultLiteral? {d : Schema.Default} {p : Primitive} (h : d.Suits p) :
    ((Unwrap.ofLiteral p.storage.needsClone (defaultLiteral? d p)).value? p.storage).map (wrapped p)
      = some (d.value p) := by
  cases h with
  | octet low high =>
    change (literal? .u8 (numberLiteral _)).map (wrapped .octet) = _
    rw [literal?, number?_numberLiteral low high]
    rfl
  | short low high =>
    change (literal? .u16 (numberLiteral _)).map (wrapped .short) = _
    rw [literal?, number?_numberLiteral low high]
    rfl
  | long low high =>
    change (literal? .u32 (numberLiteral _)).map (wrapped .long) = _
    rw [literal?, number?_numberLiteral low high]
    rfl
  | longlong low => exact congrArg (Option.map (wrapped .longlong)) (literal?_u64 low)
  | timestamp low => exact congrArg (Option.map (wrapped .timestamp)) (literal?_u64 low)
  | @bit v _ =>
    exact congrArg (Option.map (wrapped .bit)) (truth?_truthLiteral (v != 0))
  | truth b => exact congrArg (Option.map (wrapped .bit)) (truth?_truthLiteral b)
  | @shortstr s _ =>
    exact congrArg (Option.map (wrapped .shortstr)) (value?_textLiteral s .shortstr)
  | longstr s => exact congrArg (Option.map (wrapped .longstr)) (value?_textLiteral s .longstr)
  | table => rfl

/-- No literal is needed exactly for the empty text and the empty table. -/
theorem defaultLiteral?_eq_none_iff {d : Schema.Default} {p : Primitive} (h : d.Suits p) :
    defaultLiteral? d p = none ↔ d.value p = .shortstr "" ∨ d.value p = .longstr "" ∨
      d.value p = .table Wire.Table.empty := by
  have htext (s : String) (kind : Primitive) : defaultLiteral? (.str s) kind = none ↔ s = "" := by
    simp [defaultLiteral?]
  cases h with
  | octet | short | long | longlong | timestamp | bit | truth =>
    constructor
    · nofun
    · nofun
  | shortstr =>
    rw [htext]
    constructor
    · rintro rfl
      exact .inl rfl
    · rintro (h | h | h)
      · exact Wire.Value.shortstr.inj h
      · cases h
      · cases h
  | longstr =>
    rw [htext]
    constructor
    · rintro rfl
      exact .inr (.inl rfl)
    · rintro (h | h | h)
      · cases h
      · exact Wire.Value.longstr.inj h
      · cases h
  | table => exact iff_of_true rfl (.inr (.inr rfl))

/-! ## Lines -/

theorem lineBreaks_toString_nat (n : Nat) : Text.lineBreaks (toString n) = [] := by
  rw [Text.lineBreaks, Nat.toString_eq_ofList_toDigits, String.toList_ofList,
    List.filter_eq_nil_iff]
  intro c hc hbreak
  have hdigit : c.isDigit := Nat.isDigit_of_mem_toDigits (by decide) (by decide) hc
  rcases Bool.or_eq_true_iff.1 hbreak with h | h
  · rw [eq_of_beq h] at hdigit
    cases hdigit
  · rw [eq_of_beq h] at hdigit
    cases hdigit

@[simp] theorem lineBreaks_numberLiteral (v : Int64) : Text.lineBreaks (numberLiteral v) = [] := by
  rw [numberLiteral]
  cases v.toInt with
  | ofNat n => exact lineBreaks_toString_nat n
  | negSucc n =>
    change Text.lineBreaks ("-" ++ toString (n + 1)) = []
    have hsign : Text.lineBreaks "-" = [] := by decide
    rw [Text.lineBreaks_append, hsign, lineBreaks_toString_nat, List.append_nil]

@[simp] theorem lineBreaks_truthLiteral : ∀ b : Bool, Text.lineBreaks (truthLiteral b) = []
  | true => by decide
  | false => by decide

/-- **No literal breaks a line.** -/
theorem lineBreaks_defaultLiteral? {d : Schema.Default} {p : Primitive} {literal : String}
    (h : literal ∈ defaultLiteral? d p) : Text.lineBreaks literal = [] := by
  unfold defaultLiteral? at h
  split at h
  · simp [← Option.some.inj h]
  · simp [← Option.some.inj h]
  · simp [← Option.some.inj h]
  · split at h
    · cases h
    · have hfront : Text.lineBreaks "String::from(" = [] := by decide
      have hback : Text.lineBreaks ")" = [] := by decide
      simp [← Option.some.inj h, Text.quote_eq_quoteBy, hfront, hback]
  · cases h

/-- A call breaks no line that its literal does not. -/
theorem lineBreaks_unwrapCall {needsClone : Bool} {literal : Option String}
    (h : ∀ l ∈ literal, Text.lineBreaks l = []) :
    Text.lineBreaks (unwrapCall needsClone literal) = [] := by
  cases literal with
  | none =>
    have hown : Text.lineBreaks ".unwrap_or_default()" = [] := by decide
    exact hown
  | some literal =>
    have hcopied : Text.lineBreaks ".unwrap_or(" = [] := by decide
    have hcloned : Text.lineBreaks ".unwrap_or_else(|| " = [] := by decide
    have hback : Text.lineBreaks ")" = [] := by decide
    rw [unwrapCall]
    split
    · simp [h literal rfl, hcloned, hback]
    · simp [h literal rfl, hcopied, hback]

/-- Access to a field breaks no line that its names do not. -/
@[simp] theorem lineBreaks_fieldAccess (owner ident : String) (storage : Storage) :
    Text.lineBreaks (fieldAccess owner ident storage)
      = Text.lineBreaks owner ++ Text.lineBreaks ident := by
  have hdot : Text.lineBreaks "." = [] := by decide
  have hclone : Text.lineBreaks (if storage.needsClone then ".clone()" else "") = [] := by
    split
    · decide
    · decide
  simp [fieldAccess, hdot, hclone]

/-- The expression of a field: what it gets at, and the call that unwraps that, if there is one. -/
theorem encodeExpr_eq (owner ident : String) (p : Primitive) (default : Option Schema.Default) :
    encodeExpr owner ⟨ident, p, default⟩ = "FieldValue::" ++ p.variant ++ "(" ++
      fieldAccess owner ident p.storage ++ default.elim "" (fun d =>
        unwrapCall p.storage.needsClone (defaultLiteral? d p)) ++ ")" := by
  cases default with
  | none => rfl
  | some d => rfl

/-- **The expression of a field stays on the line of its record and identifier**, whatever the
default is. -/
@[simp] theorem lineBreaks_encodeExpr (owner : String) (f : EncodeField) :
    Text.lineBreaks (encodeExpr owner f) = Text.lineBreaks owner ++ Text.lineBreaks f.ident := by
  obtain ⟨ident, p, default⟩ := f
  have hhead : Text.lineBreaks "FieldValue::" = [] := by decide
  have hvariant : Text.lineBreaks p.variant = [] := by cases p <;> decide
  have hopen : Text.lineBreaks "(" = [] := by decide
  have hclose : Text.lineBreaks ")" = [] := by decide
  have hcall : Text.lineBreaks (default.elim "" fun d =>
      unwrapCall p.storage.needsClone (defaultLiteral? d p)) = [] := by
    cases default with
    | none => rfl
    | some d => exact lineBreaks_unwrapCall fun _ => lineBreaks_defaultLiteral?
  simp [encodeExpr_eq, hhead, hvariant, hopen, hclose, hcall]

/-! ## The default in generated code -/

/-- **Generated code sends the default that the codec sends.**  The expression of a field with a
default unwraps the field in one of three ways, and an empty field is unwrapped to the payload of
the value that the default stands for.  The type's own default is relied on exactly where that
payload is the empty text or the empty table; and a literal is read to its end and no further,
whatever characters its text has and whichever of them are escaped. -/
theorem encodeExpr_default {d : Schema.Default} {p : Primitive} (h : d.fits p)
    (owner ident : String) :
    (∃ u : Unwrap,
      encodeExpr owner ⟨ident, p, some d⟩ = "FieldValue::" ++ p.variant ++ "(" ++
        fieldAccess owner ident p.storage ++ u.call ++ ")" ∧
      (u.value? p.storage).map (wrapped p) = some (d.value p) ∧
      (u = .own ↔ d.value p = .shortstr "" ∨ d.value p = .longstr "" ∨
        d.value p = .table Wire.Table.empty)) ∧
    Text.lineBreaks (encodeExpr owner ⟨ident, p, some d⟩)
      = Text.lineBreaks owner ++ Text.lineBreaks ident ∧
    ∀ (visible : Char → Bool) (s : String) (rest : List Char),
      Text.readQuoted ((Text.quoteBy visible s).toList ++ rest) = some (s, rest) ∧
      Text.lineBreaks (Text.quoteBy visible s) = [] := by
  have hsuits := Schema.Default.suits_of_fits h
  refine ⟨⟨.ofLiteral p.storage.needsClone (defaultLiteral? d p), ?_,
    wrapped_defaultLiteral? hsuits, ?_⟩, lineBreaks_encodeExpr owner _, fun visible s rest =>
      ⟨Text.readQuoted_quoteBy visible s rest, Text.lineBreaks_quoteBy visible s⟩⟩
  · rw [Unwrap.call_ofLiteral, encodeExpr_eq]
    rfl
  · rw [← defaultLiteral?_eq_none_iff hsuits, Unwrap.ofLiteral_eq_own_iff]

/-- A default with a quote and a line feed in it. -/
theorem encodeExpr_brokenText :
    Schema.Default.fits (.str "a\n\"b") .shortstr ∧
    encodeExpr "args" ⟨"text", .shortstr, some (.str "a\n\"b")⟩ =
      "FieldValue::ShortStr(args.text.clone().unwrap_or_else(|| String::from(\"a\\n\\\"b\")))" ∧
    Text.lineBreaks (encodeExpr "args" ⟨"text", .shortstr, some (.str "a\n\"b")⟩) = [] ∧
    ∃ u : Unwrap, u ≠ .own ∧
      (u.value? .text).map (wrapped .shortstr) = some (.shortstr "a\n\"b") := by
  have hfits : Schema.Default.fits (.str "a\n\"b") .shortstr := by decide
  obtain ⟨⟨u, -, hvalue, hown⟩, hlines, -⟩ := encodeExpr_default hfits "args" "text"
  refine ⟨hfits, by decide, hlines, u, ?_, hvalue⟩
  intro h
  rcases hown.1 h with h | h | h
  · exact absurd (Wire.Value.shortstr.inj h) (by decide)
  · cases h
  · cases h

end FrameSchema.Bindings
