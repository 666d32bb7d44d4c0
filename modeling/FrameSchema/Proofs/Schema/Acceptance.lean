import FrameSchema.Proofs.Schema.WellFormed
import Mathlib.Algebra.Ring.Int.Defs

/-!
# Proofs/Schema/Acceptance — which models make a schema

The check goes through a model pass by pass: all names, then all clashes, then all numbers, then all
arguments.  Here its verdict is told level by level, as the model is built: what makes an argument
sound, a method, a class, a model (`Model.Sound`).  Nothing of this is told in the words of the
check: names are words over an alphabet, kinds come from a domain that exists, and a default suits a
kind by its range.  `Schema.exists_ofModel_iff` says that exactly the sound models make a schema.
-/

namespace FrameSchema.Schema

/-! ## Names -/

/-- An ASCII letter or digit. -/
def IsAsciiAlphanumeric (c : Char) : Prop :=
  ('A' ≤ c ∧ c ≤ 'Z') ∨ ('a' ≤ c ∧ c ≤ 'z') ∨ ('0' ≤ c ∧ c ≤ '9')

/-- A word of ASCII letters, digits, `_`, `-` and `.`, with a letter or digit among them. -/
structure Spellable (name : String) : Prop where
  chars : ∀ c ∈ name.toList, IsAsciiAlphanumeric c ∨ c = '_' ∨ c = '-' ∨ c = '.'
  alphanumeric : ∃ c ∈ name.toList, IsAsciiAlphanumeric c

theorem isAlphanum_iff {c : Char} : c.isAlphanum ↔ IsAsciiAlphanumeric c := by
  have hupper : c.isUpper ↔ 'A' ≤ c ∧ c ≤ 'Z' := decide_eq_true_iff
  have hlower : c.isLower ↔ 'a' ≤ c ∧ c ≤ 'z' :=
    Bool.and_eq_true_iff.trans (and_congr decide_eq_true_iff decide_eq_true_iff)
  have hdigit : c.isDigit ↔ '0' ≤ c ∧ c ≤ '9' :=
    Bool.and_eq_true_iff.trans (and_congr decide_eq_true_iff decide_eq_true_iff)
  change (c.isUpper || c.isLower || c.isDigit) = true ↔ _
  rw [Bool.or_eq_true, Bool.or_eq_true, hupper, hlower, hdigit, or_assoc]
  rfl

theorem isNameChar_iff {c : Char} :
    isNameChar c ↔ IsAsciiAlphanumeric c ∨ c = '_' ∨ c = '-' ∨ c = '.' := by
  simp only [isNameChar, Bool.or_eq_true, beq_iff_eq, isAlphanum_iff, or_assoc]

/-- **The names that can be made identifiers are the words over their alphabet.** -/
theorem isAdmissibleName_iff {name : String} : isAdmissibleName name ↔ Spellable name := by
  rw [isAdmissibleName, Bool.and_eq_true, List.all_eq_true, List.any_eq_true]
  simp only [isNameChar_iff, isAlphanum_iff]
  exact ⟨fun ⟨hchars, halpha⟩ => ⟨hchars, halpha⟩, fun h => ⟨h.chars, h.alphanumeric⟩⟩

/-- The names of a model are those of its classes, with their properties and methods, and those of
its constants. -/
theorem Model.forall_mem_names_iff {model : Model} {P : String → Prop} :
    (∀ name ∈ model.names, P name) ↔
      (∀ c ∈ model.classes, P c.name ∧ (∀ p ∈ c.properties, P p.name) ∧
        ∀ m ∈ c.methods, P m.name ∧ ∀ a ∈ m.arguments, P a.name) ∧
      ∀ c ∈ model.constants, P c.name := by
  simp only [Model.names, List.forall_mem_append, List.forall_mem_flatMap, List.forall_mem_cons,
    List.cons_append, List.forall_mem_map]

/-! ## Kinds and defaults -/

/-- An argument is of the kind that is written out, or of that of the domain it names. -/
inductive Argument.HasKind (domains : List Domain) (a : Argument) : Primitive → Prop where
  | explicit {primitive : Primitive} (h : a.type = .explicit primitive) :
      a.HasKind domains primitive
  | byDomain {d : Domain} (hd : d ∈ domains) (h : a.type = .byDomain d.name) :
      a.HasKind domains d.primitive

/-- Where the names of domains differ, a name leads to the domain of that name. -/
theorem Model.domain?_eq_some_iff {model : Model} (h : (model.domains.map (·.name)).Nodup)
    {name : String} {primitive : Primitive} :
    model.domain? name = some primitive ↔
      ∃ d ∈ model.domains, d.name = name ∧ d.primitive = primitive := by
  rw [Model.domain?, Option.map_eq_some_iff]
  refine exists_congr fun d => ?_
  rw [find?_eq_some_iff_of_nodup_map h, and_assoc]

/-- Where the names of domains differ, an argument is resolved to its kind. -/
theorem Model.resolve_eq_ok_iff {model : Model} (h : (model.domains.map (·.name)).Nodup)
    {a : Argument} {primitive : Primitive} :
    model.resolve a = .ok primitive ↔ a.HasKind model.domains primitive := by
  obtain ⟨name, type, default⟩ := a
  cases type with
  | explicit p =>
    rw [Model.resolve, Except.ok.injEq]
    constructor
    · rintro rfl
      exact .explicit rfl
    · rintro (hp | ⟨_, hd⟩)
      · exact ArgumentType.explicit.inj hp
      · cases hd
  | byDomain domain =>
    have hresolve : model.resolve ⟨name, .byDomain domain, default⟩ = .ok primitive ↔
        model.domain? domain = some primitive := by
      dsimp only [Model.resolve]
      cases model.domain? domain with
      | some p => rw [Except.ok.injEq, Option.some.injEq]
      | none => exact ⟨fun hok => (nomatch hok), fun hok => (nomatch hok)⟩
    rw [hresolve, Model.domain?_eq_some_iff h]
    constructor
    · rintro ⟨d, hd, rfl, rfl⟩
      exact .byDomain hd rfl
    · rintro (hp | ⟨hd, hname⟩)
      · cases hp
      · exact ⟨_, hd, (ArgumentType.byDomain.inj hname).symm, rfl⟩

/-- The defaults that can stand for a value of a kind: numbers in its range, truth values and the
numbers zero and one for bits, texts that the wire has room for, and the empty table. -/
inductive Default.Suits : Default → Primitive → Prop where
  | octet {v : Int64} (low : 0 ≤ v.toInt) (high : v.toInt < 2 ^ 8) : Suits (.int v) .octet
  | short {v : Int64} (low : 0 ≤ v.toInt) (high : v.toInt < 2 ^ 16) : Suits (.int v) .short
  | long {v : Int64} (low : 0 ≤ v.toInt) (high : v.toInt < 2 ^ 32) : Suits (.int v) .long
  | longlong {v : Int64} (low : 0 ≤ v.toInt) : Suits (.int v) .longlong
  | timestamp {v : Int64} (low : 0 ≤ v.toInt) : Suits (.int v) .timestamp
  | bit {v : Int64} (h : v.toInt = 0 ∨ v.toInt = 1) : Suits (.int v) .bit
  | truth (b : Bool) : Suits (.bool b) .bit
  | shortstr {s : String} (h : s.utf8ByteSize ≤ 255) : Suits (.str s) .shortstr
  | longstr (s : String) : Suits (.str s) .longstr
  | table : Suits .emptyTable .table

/-- A number that is checked against a range has an integer value in it. -/
theorem range_iff {v top : Int64} : (decide (0 ≤ v) && decide (v ≤ top)) = true ↔
    0 ≤ v.toInt ∧ v.toInt ≤ top.toInt := by
  rw [Bool.and_eq_true, decide_eq_true_eq, decide_eq_true_eq, Int64.le_iff_toInt_le,
    Int64.le_iff_toInt_le]
  rfl

/-- A number that is not negative keeps its value where it is taken as unsigned. -/
theorem toNat_toUInt64 {v : Int64} (low : 0 ≤ v.toInt) : v.toUInt64.toNat = v.toInt.toNat := by
  have hbits : v.toInt = if 2 * v.toUInt64.toNat < 2 ^ 64 then (v.toUInt64.toNat : Int)
      else (v.toUInt64.toNat : Int) - (2 ^ 64 : Nat) := BitVec.toInt_eq_toNat_cond v.toBitVec
  have hlt : v.toUInt64.toNat < 2 ^ 64 := v.toUInt64.toNat_lt
  split at hbits <;> omega

/-- A default that is let through lies in the range of its kind. -/
theorem Default.suits_of_fits : ∀ {d : Default} {primitive : Primitive},
    d.fits primitive → d.Suits primitive
  | .int v, .octet, h => by
      obtain ⟨low, high⟩ := range_iff.1 h
      exact .octet low (Int.lt_add_one_of_le high)
  | .int v, .short, h => by
      obtain ⟨low, high⟩ := range_iff.1 h
      exact .short low (Int.lt_add_one_of_le high)
  | .int v, .long, h => by
      obtain ⟨low, high⟩ := range_iff.1 h
      exact .long low (Int.lt_add_one_of_le high)
  | .int v, .longlong, h => .longlong (Int64.le_iff_toInt_le.1 (of_decide_eq_true h))
  | .int v, .timestamp, h => .timestamp (Int64.le_iff_toInt_le.1 (of_decide_eq_true h))
  | .int v, .bit, h => by
      rcases Bool.or_eq_true_iff.1 h with h | h
      · exact .bit (.inl (congrArg Int64.toInt (eq_of_beq h)))
      · exact .bit (.inr (congrArg Int64.toInt (eq_of_beq h)))
  | .bool b, .bit, _ => .truth b
  | .str s, .shortstr, h => .shortstr (of_decide_eq_true h)
  | .str s, .longstr, _ => .longstr s
  | .emptyTable, .table, _ => .table

/-- A default in the range of its kind is let through. -/
theorem Default.fits_of_suits {d : Default} {primitive : Primitive} (h : d.Suits primitive) :
    d.fits primitive := by
  cases h with
  | octet low high => exact range_iff.2 ⟨low, Int.le_of_lt_add_one high⟩
  | short low high => exact range_iff.2 ⟨low, Int.le_of_lt_add_one high⟩
  | long low high => exact range_iff.2 ⟨low, Int.le_of_lt_add_one high⟩
  | longlong low => exact decide_eq_true (Int64.le_iff_toInt_le.2 low)
  | timestamp low => exact decide_eq_true (Int64.le_iff_toInt_le.2 low)
  | bit h =>
    rcases h with h | h
    · obtain rfl := Int64.toInt_inj.1 (h.trans Int64.toInt_zero.symm)
      rfl
    · obtain rfl := Int64.toInt_inj.1 (h.trans Int64.toInt_one.symm)
      rfl
  | truth b => rfl
  | shortstr h => exact decide_eq_true h
  | longstr s => rfl
  | table => rfl

theorem Default.fits_iff_suits {d : Default} {primitive : Primitive} :
    d.fits primitive ↔ d.Suits primitive := ⟨suits_of_fits, fits_of_suits⟩

/-- An argument is settled exactly if it has a kind and a default that suits it. -/
theorem Model.settles_iff {model : Model} (h : (model.domains.map (·.name)).Nodup) {a : Argument} :
    model.Settles a ↔
      ∃ primitive, a.HasKind model.domains primitive ∧ ∀ d ∈ a.default, d.Suits primitive := by
  simp only [Model.Settles, Model.resolve_eq_ok_iff h, Default.fits_iff_suits]

/-- The answer of a method is known exactly if its class has a method of that name. -/
theorem Class.knowsResponse_iff {c : Class} {m : Method} :
    c.knowsResponse m ↔ ∀ response ∈ m.response, ∃ answer ∈ c.methods, answer.name = response := by
  rw [Class.knowsResponse]
  cases m.response with
  | none => simp
  | some response => simp [List.any_eq_true]

/-! ## Level by level -/

/-- An argument has a name, and a kind that its default suits. -/
structure Argument.Sound (model : Model) (a : Argument) : Prop where
  name : Spellable a.name
  kind : ∃ primitive, a.HasKind model.domains primitive ∧ ∀ d ∈ a.default, d.Suits primitive

/-- A method has a name, arguments that are told apart, and an answer from its own class, if it has
one. -/
structure Method.Sound (model : Model) (c : Class) (m : Method) : Prop where
  name : Spellable m.name
  arguments : ∀ a ∈ m.arguments, a.Sound model
  distinct : FieldNamesDistinct (m.arguments.map (·.name))
  response : ∀ response ∈ m.response, ∃ answer ∈ c.methods, answer.name = response

/-- A class has a name, properties that are told apart, and methods with numbers of their own. -/
structure Class.Sound (model : Model) (c : Class) : Prop where
  name : Spellable c.name
  properties : ∀ p ∈ c.properties, Spellable p.name
  distinct : FieldNamesDistinct (c.properties.map (·.name))
  methods : ∀ m ∈ c.methods, m.Sound model c
  methodIds : (c.methods.map (·.id)).Nodup

/-- A model has domains and constants that are told apart, and classes with numbers of their own;
no two of the types and no two of the functions that are generated for it share a name, be it one
that the generated module keeps for itself. -/
structure Model.Sound (model : Model) : Prop where
  domains : (model.domains.map (·.name)).Nodup
  constantNames : ∀ c ∈ model.constants, Spellable c.name
  constants : (model.constants.map fun c => Identifier.constant c.name).Nodup
  classes : ∀ c ∈ model.classes, c.Sound model
  classIds : (model.classes.map (·.id)).Nodup
  types : model.types.Nodup
  stems : model.stems.Nodup

/-- **What the check says pass by pass makes each level sound.** -/
theorem Model.WellFormed.sound {model : Model} (h : model.WellFormed) : model.Sound := by
  obtain ⟨hclassNames, hconstantNames⟩ := Model.forall_mem_names_iff.1 h.names
  simp only [isAdmissibleName_iff] at hclassNames hconstantNames
  refine ⟨h.domains, hconstantNames, h.constants, fun c hc => ?_, h.classIds, h.types, h.stems⟩
  obtain ⟨hname, hproperties, hmethods⟩ := hclassNames c hc
  refine ⟨hname, hproperties, (h.fields c hc).properties, fun m hm => ?_,
    (h.numbers c hc).methodIds⟩
  obtain ⟨hmethod, harguments⟩ := hmethods m hm
  exact ⟨hmethod,
    fun a ha => ⟨harguments a ha, (settles_iff h.domains).1 (h.arguments c hc m hm a ha)⟩,
    (h.fields c hc).arguments m hm,
    Class.knowsResponse_iff.1 ((h.numbers c hc).responses m hm)⟩

/-- **Sound levels pass the check.** -/
theorem Model.Sound.wellFormed {model : Model} (h : model.Sound) : model.WellFormed where
  domains := h.domains
  names := by
    refine Model.forall_mem_names_iff.2 ⟨fun c hc => ?_, ?_⟩
    · have hclass := h.classes c hc
      simp only [isAdmissibleName_iff]
      exact ⟨hclass.name, hclass.properties, fun m hm => ⟨(hclass.methods m hm).name,
        fun a ha => ((hclass.methods m hm).arguments a ha).name⟩⟩
    · simp only [isAdmissibleName_iff]
      exact h.constantNames
  constants := h.constants
  types := h.types
  stems := h.stems
  fields c hc := ⟨(h.classes c hc).distinct, fun m hm => ((h.classes c hc).methods m hm).distinct⟩
  classIds := h.classIds
  numbers c hc := ⟨(h.classes c hc).methodIds,
    fun m hm => Class.knowsResponse_iff.2 ((h.classes c hc).methods m hm).response⟩
  arguments c hc m hm a ha :=
    (settles_iff h.domains).2 (((h.classes c hc).methods m hm).arguments a ha).kind

/-! ## The models that make a schema -/

/-- A schema of a model is the model itself. -/
theorem ofModel_eq_ok_iff {model : Model} {schema : Schema} :
    ofModel model = .ok schema ↔ schema.toModel = model := by
  constructor
  · intro h
    unfold ofModel at h
    split at h
    · rw [← Except.ok.inj h]
    · cases h
  · rintro rfl
    unfold ofModel
    split
    · rfl
    · rename_i cause h
      rw [schema.checked] at h
      cases h

/-- **Exactly the sound models make a schema**, which then is the model as it was given. -/
theorem exists_ofModel_iff (model : Model) :
    (∃ schema : Schema, ofModel model = .ok schema ∧ schema.toModel = model) ↔ model.Sound := by
  constructor
  · rintro ⟨schema, -, rfl⟩
    exact schema.wellFormed.sound
  · intro h
    have hcheck : model.check = .ok () := Model.check_eq_ok_iff.2 h.wellFormed
    exact ⟨⟨model, hcheck⟩, ofModel_eq_ok_iff.2 rfl, rfl⟩

end FrameSchema.Schema
