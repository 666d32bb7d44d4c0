import FrameSchema.Proofs.Schema.Acceptance
import FrameSchema.Schema.Load

/-!
# Proofs/Schema/Documents — what a document writes, and the schema that is loaded from it

A document describes a schema if the two agree part by part, in the same order
(`Document.Describes`).  Kinds are settled at two places, those of properties while the document is
gone through and those of arguments by the finished schema, and of two domains with one name the
first place takes the later, the second the earlier.  In a schema no two domains have one name, so
both come to the kind that the field is written with (`WrittenField.kind?`).  Loading is this
relation: `Schema.ofDocument_eq_ok_iff`.
-/

namespace FrameSchema

theorem Primitive.ofName?_eq_some_iff {name : String} {p : Primitive} :
    ofName? name = some p ↔ p.name = name := by
  constructor
  · exact fun h => eq_of_beq (List.find?_some (p := fun p : Primitive => p.name == name) h)
  · rintro rfl
    exact ofName?_name p

namespace Schema

/-! ## What is written -/

/-- **The kind that a field is written with**: that of its type if it has one, even if it has a
domain too, and else that of the domain. -/
def WrittenField.kind? (field : WrittenField) (domains : List (String × String)) :
    Option Primitive :=
  match field.type, field.domain with
  | some type, _ => Primitive.ofName? type
  | none, some domain => (domains.lookup domain).bind Primitive.ofName?
  | none, none => none

/-- The type of an argument as the field has it. -/
inductive WrittenField.Types (field : WrittenField) : ArgumentType → Prop where
  | explicit {name : String} {p : Primitive} (htype : field.type = some name)
      (hname : Primitive.ofName? name = some p) : field.Types (.explicit p)
  | byDomain {domain : String} (htype : field.type = none) (hdomain : field.domain = some domain) :
      field.Types (.byDomain domain)

/-- The default that a value writes, which is none if it is missing or `null`. -/
inductive WritesDefault : Option Json.Value → Option Default → Prop where
  | missing : WritesDefault none none
  | null : WritesDefault (some .null) none
  | int (v : Int64) : WritesDefault (some (.number (.integer v.toInt))) (some (.int v))
  | bool (b : Bool) : WritesDefault (some (.bool b)) (some (.bool b))
  | str (s : String) : WritesDefault (some (.string s)) (some (.str s))
  | emptyTable : WritesDefault (some (.object [])) (some .emptyTable)

/-- A pair names a domain and its kind. -/
structure DescribesDomain (pair : String × String) (d : Domain) : Prop where
  name : d.name = pair.1
  kind : Primitive.ofName? pair.2 = some d.primitive

structure DescribesProperty (domains : List (String × String)) (written : WrittenField)
    (p : Property) : Prop where
  name : p.name = written.name
  kind : written.kind? domains = some p.primitive

structure DescribesArgument (domains : List (String × String)) (model : Model)
    (written : WrittenField) (a : Argument) : Prop where
  name : a.name = written.name
  type : written.Types a.type
  kind : ∃ p, model.resolve a = .ok p ∧ written.kind? domains = some p
  default : WritesDefault written.default a.default

structure DescribesMethod (domains : List (String × String)) (model : Model)
    (written : WrittenMethod) (m : Method) : Prop where
  id : m.id = written.id
  name : m.name = written.name
  synchronous : m.synchronous = written.synchronous
  response : m.response = written.response
  content : m.content = written.content
  arguments : List.Forall₂ (DescribesArgument domains model) written.arguments m.arguments

structure DescribesClass (domains : List (String × String)) (model : Model)
    (written : WrittenClass) (c : Class) : Prop where
  id : c.id = written.id
  name : c.name = written.name
  properties : List.Forall₂ (DescribesProperty domains) written.properties c.properties
  methods : List.Forall₂ (DescribesMethod domains model) written.methods c.methods

/-- **A document describes a model**: part by part, in this order. -/
structure Document.Describes (document : Document) (model : Model) : Prop where
  classes : List.Forall₂ (DescribesClass document.domains model) document.classes model.classes
  domains : List.Forall₂ DescribesDomain document.domains model.domains
  constants : model.constants = document.constants

/-! ## Domains -/

theorem primitiveOfName_eq_ok_iff {name : String} {p : Primitive} :
    primitiveOfName name = .ok p ↔ Primitive.ofName? name = some p := by
  rw [primitiveOfName]
  cases Primitive.ofName? name with
  | none => exact ⟨fun h => (nomatch h), fun h => (nomatch h)⟩
  | some q => rw [Except.ok.injEq, Option.some.injEq]

/-- A pair of names is taken for the domain that it describes, if the second is a kind. -/
theorem domainOfPair_eq_ok_iff {pair : String × String} {d : Domain} :
    domainOfPair pair = .ok d ↔ DescribesDomain pair d := by
  rw [domainOfPair, bind_eq_ok_iff]
  constructor
  · rintro ⟨p, hp, hd⟩
    rw [← Except.ok.inj hd]
    exact ⟨rfl, primitiveOfName_eq_ok_iff.1 hp⟩
  · rintro ⟨hname, hkind⟩
    refine ⟨d.primitive, primitiveOfName_eq_ok_iff.2 hkind, ?_⟩
    rw [← hname]
    rfl

/-- The first domain of a name is the first pair of that name. -/
theorem find?_name_eq {pairs : List (String × String)} {domains : List Domain}
    (h : List.Forall₂ DescribesDomain pairs domains) (name : String) :
    (domains.find? (·.name == name)).map (·.primitive)
      = (pairs.lookup name).bind Primitive.ofName? := by
  induction h with
  | nil => rfl
  | @cons pair d _ _ hd _ ih =>
    obtain ⟨key, kind⟩ := pair
    by_cases hname : name = key
    · have hfound : (d.name == name) = true := beq_iff_eq.2 (hd.name.trans hname.symm)
      rw [List.find?_cons, hfound, hname, List.lookup_cons_self]
      exact hd.kind.symm
    · have hother : (d.name == name) = false :=
        beq_false_of_ne fun h => hname (h.symm.trans hd.name)
      rw [List.find?_cons, hother, Wire.lookup_cons_of_ne hname]
      exact ih

/-- Where the names of domains differ, the last domain of a name is the first one. -/
theorem lastDomain?_eq {model : Model} (h : (model.domains.map (·.name)).Nodup) (name : String) :
    lastDomain? model.domains name = model.domain? name := by
  have hrev : (model.domains.reverse.map (·.name)).Nodup := by
    rw [List.map_reverse]
    exact List.nodup_reverse.2 h
  rw [lastDomain?, Model.domain?]
  congr 1
  refine Option.ext fun d => ?_
  rw [find?_eq_some_iff_of_nodup_map hrev, find?_eq_some_iff_of_nodup_map h, List.mem_reverse]

/-! ## Fields -/

theorem toArgumentType_eq_ok_iff {className methodName : String} {field : WrittenField}
    {type : ArgumentType} :
    field.toArgumentType className methodName = .ok type ↔ field.Types type := by
  rw [WrittenField.toArgumentType]
  constructor
  · intro h
    split at h
    · rename_i htype
      obtain ⟨p, hp, hok⟩ := bind_eq_ok_iff.1 h
      obtain rfl := Except.ok.inj hok
      exact .explicit htype (primitiveOfName_eq_ok_iff.1 hp)
    · rename_i htype hdomain
      obtain rfl := Except.ok.inj h
      exact .byDomain htype hdomain
    · cases h
  · rintro (⟨htype, hname⟩ | ⟨htype, hdomain⟩)
    · rw [htype]
      exact bind_eq_ok_iff.2 ⟨_, primitiveOfName_eq_ok_iff.2 hname, rfl⟩
    · rw [htype, hdomain]

/-- A number is a default exactly if it has room in 64 bits and a sign. -/
theorem defaultOfValue_integer_eq_ok_iff {argument : String} {n : Int} {d : Default} :
    defaultOfValue argument (.number (.integer n)) = .ok d ↔
      ∃ v : Int64, v.toInt = n ∧ .int v = d := by
  rw [defaultOfValue]
  constructor
  · intro h
    split at h
    · rename_i hrange
      exact ⟨Int64.ofInt n, Int64.toInt_ofInt_of_le hrange.1 (Int.lt_add_one_of_le hrange.2),
        Except.ok.inj h⟩
    · cases h
  · rintro ⟨v, rfl, rfl⟩
    rw [if_pos ⟨v.minValue_le_toInt, v.toInt_le⟩, Int64.ofInt_toInt]

/-- A default is taken exactly for what is written. -/
theorem toDefault_eq_ok_iff {field : WrittenField} {d : Option Default} :
    field.toDefault = .ok d ↔ WritesDefault field.default d := by
  rw [WrittenField.toDefault]
  constructor
  · intro h
    split at h
    · rename_i hdefault
      obtain rfl := Except.ok.inj h
      rw [hdefault]
      exact .missing
    · rename_i hdefault
      obtain rfl := Except.ok.inj h
      rw [hdefault]
      exact .null
    · rename_i value _ hdefault
      obtain ⟨d, hd, rfl⟩ := map_eq_ok_iff.1 h
      rw [hdefault]
      match value, hd with
      | .bool b, hd =>
        obtain rfl := Except.ok.inj hd
        exact .bool b
      | .number (.integer n), hd =>
        obtain ⟨v, rfl, rfl⟩ := defaultOfValue_integer_eq_ok_iff.1 hd
        exact .int v
      | .string s, hd =>
        obtain rfl := Except.ok.inj hd
        exact .str s
      | .object [], hd =>
        obtain rfl := Except.ok.inj hd
        exact .emptyTable
  · generalize field.default = written
    intro h
    cases h with
    | int v => exact map_eq_ok_iff.2 ⟨_, defaultOfValue_integer_eq_ok_iff.2 ⟨v, rfl, rfl⟩, rfl⟩
    | missing | null | bool | str | emptyTable => rfl

section Fields

variable {pairs : List (String × String)} {model : Model}
  (hdomains : List.Forall₂ DescribesDomain pairs model.domains)
include hdomains

/-- **The finished schema settles an argument by what is written.** -/
theorem toOption_resolve_eq {field : WrittenField} {a : Argument} (h : field.Types a.type) :
    (model.resolve a).toOption = field.kind? pairs := by
  obtain ⟨name, type, default⟩ := a
  rw [WrittenField.kind?]
  cases h with
  | explicit htype hname =>
    rw [htype]
    exact hname.symm
  | @byDomain domain htype hdomain =>
    have hkind := find?_name_eq hdomains domain
    rw [htype, hdomain]
    dsimp only [Model.resolve, Model.domain?]
    rw [← hkind]
    cases (model.domains.find? _).map _ <;> rfl

/-- **Going through the document settles a property by what is written.** -/
theorem toProperty_eq_ok_iff (hnodup : (model.domains.map (·.name)).Nodup) {className : String}
    {field : WrittenField} {p : Property} :
    field.toProperty model.domains className = .ok p ↔ DescribesProperty pairs field p := by
  -- Here the later of two domains would count, but there are no two of one name.
  have hlast (name : String) : lastDomain? model.domains name
      = (pairs.lookup name).bind Primitive.ofName? :=
    (lastDomain?_eq hnodup name).trans (find?_name_eq hdomains name)
  have hdescribes : DescribesProperty pairs field p ↔
      ∃ primitive, field.kind? pairs = some primitive ∧ ⟨field.name, primitive⟩ = p := by
    constructor
    · exact fun h => ⟨p.primitive, h.kind, by rw [← h.name]⟩
    · rintro ⟨primitive, hkind, rfl⟩
      exact ⟨rfl, hkind⟩
  rw [hdescribes, WrittenField.toProperty, WrittenField.kind?]
  cases field.type with
  | some type =>
    dsimp only
    rw [bind_eq_ok_iff]
    refine exists_congr fun primitive => and_congr primitiveOfName_eq_ok_iff ?_
    exact ⟨Except.ok.inj, congrArg _⟩
  | none =>
    cases field.domain with
    | some domain =>
      dsimp only
      rw [hlast]
      cases (pairs.lookup domain).bind Primitive.ofName? with
      | some primitive => simp
      | none => simp
    | none => simp

/-- A record makes an argument exactly if it describes it. -/
theorem toArgument_eq_ok_iff {className methodName : String} {field : WrittenField} {a : Argument}
    (hsettles : model.Settles a) :
    field.toArgument className methodName = .ok a ↔ DescribesArgument pairs model field a := by
  rw [WrittenField.toArgument]
  simp only [bind_eq_ok_iff, toArgumentType_eq_ok_iff, toDefault_eq_ok_iff]
  constructor
  · rintro ⟨type, htype, default, hdefault, ha⟩
    obtain rfl := Except.ok.inj ha
    obtain ⟨p, hp, -⟩ := hsettles
    have hkind := toOption_resolve_eq hdomains (a := ⟨field.name, type, default⟩) htype
    rw [hp] at hkind
    exact ⟨rfl, htype, ⟨p, hp, hkind.symm⟩, hdefault⟩
  · rintro ⟨hname, htype, -, hdefault⟩
    refine ⟨a.type, htype, a.default, hdefault, ?_⟩
    rw [← hname]
    rfl

/-! ## Methods, classes and documents -/

theorem toMethod_eq_ok_iff {className : String} {written : WrittenMethod} {m : Method}
    (hsettles : ∀ a ∈ m.arguments, model.Settles a) :
    written.toMethod className = .ok m ↔ DescribesMethod pairs model written m := by
  have harguments : ∀ {arguments : List Argument}, (∀ a ∈ arguments, model.Settles a) →
      (written.arguments.mapM (·.toArgument className written.name) = .ok arguments ↔
        List.Forall₂ (DescribesArgument pairs model) written.arguments arguments) :=
    fun hsettles => mapM_eq_ok_iff.trans
      (forall₂_congr_right fun a ha _ => toArgument_eq_ok_iff hdomains (hsettles a ha))
  rw [WrittenMethod.toMethod, bind_eq_ok_iff]
  constructor
  · rintro ⟨arguments, hok, hm⟩
    obtain rfl := Except.ok.inj hm
    exact ⟨rfl, rfl, rfl, rfl, rfl, (harguments hsettles).1 hok⟩
  · rintro ⟨hid, hname, hsynchronous, hresponse, hcontent, hwritten⟩
    refine ⟨m.arguments, (harguments hsettles).2 hwritten, ?_⟩
    rw [← hid, ← hname, ← hsynchronous, ← hresponse, ← hcontent]
    rfl

/-- A record makes a class exactly if it describes it, properties and methods in order. -/
theorem toClass_eq_ok_iff (hnodup : (model.domains.map (·.name)).Nodup) {written : WrittenClass}
    {c : Class} (hsettles : ∀ m ∈ c.methods, ∀ a ∈ m.arguments, model.Settles a) :
    written.toClass model.domains = .ok c ↔ DescribesClass pairs model written c := by
  have hproperties : ∀ {properties : List Property},
      written.properties.mapM (·.toProperty model.domains written.name) = .ok properties ↔
        List.Forall₂ (DescribesProperty pairs) written.properties properties :=
    mapM_eq_ok_iff.trans
      (forall₂_congr_right fun _ _ _ => toProperty_eq_ok_iff hdomains hnodup)
  have hmethods : ∀ {methods : List Method},
      (∀ m ∈ methods, ∀ a ∈ m.arguments, model.Settles a) →
      (written.methods.mapM (·.toMethod written.name) = .ok methods ↔
        List.Forall₂ (DescribesMethod pairs model) written.methods methods) :=
    fun hsettles => mapM_eq_ok_iff.trans
      (forall₂_congr_right fun m hm _ => toMethod_eq_ok_iff hdomains (hsettles m hm))
  rw [WrittenClass.toClass]
  simp only [bind_eq_ok_iff]
  constructor
  · rintro ⟨properties, hproperties', methods, hmethods', hc⟩
    obtain rfl := Except.ok.inj hc
    exact ⟨rfl, rfl, hproperties.1 hproperties', (hmethods hsettles).1 hmethods'⟩
  · rintro ⟨hid, hname, hproperties', hmethods'⟩
    refine ⟨c.properties, hproperties.2 hproperties', c.methods,
      (hmethods hsettles).2 hmethods', ?_⟩
    rw [← hid, ← hname]
    rfl

end Fields

/-- **A document becomes the well-formed model that it describes.** -/
theorem toModel_eq_ok_iff {document : Document} {model : Model} (h : model.WellFormed) :
    document.toModel = .ok model ↔ document.Describes model := by
  have hdomains : ∀ {domains : List Domain}, document.domains.mapM domainOfPair = .ok domains ↔
      List.Forall₂ DescribesDomain document.domains domains :=
    mapM_eq_ok_iff.trans (forall₂_congr_right fun _ _ _ => domainOfPair_eq_ok_iff)
  have hclasses : List.Forall₂ DescribesDomain document.domains model.domains →
      (document.classes.mapM (·.toClass model.domains) = .ok model.classes ↔
        List.Forall₂ (DescribesClass document.domains model) document.classes model.classes) :=
    fun hdescribed => mapM_eq_ok_iff.trans (forall₂_congr_right fun c hc _ =>
      toClass_eq_ok_iff hdescribed h.domains (h.arguments c hc))
  rw [Document.toModel]
  simp only [bind_eq_ok_iff]
  constructor
  · rintro ⟨domains, hdomains', classes, hclasses', hmodel⟩
    obtain rfl := Except.ok.inj hmodel
    have hdescribed := hdomains.1 hdomains'
    exact ⟨(hclasses hdescribed).1 hclasses', hdescribed, rfl⟩
  · rintro ⟨hclasses', hdomains', hconstants⟩
    refine ⟨model.domains, hdomains.2 hdomains', model.classes,
      (hclasses hdomains').2 hclasses', ?_⟩
    rw [← hconstants]
    rfl

/-- **Loading is description**: a document gives the schema that it describes, and no other. -/
theorem ofDocument_eq_ok_iff {document : Document} {schema : Schema} :
    ofDocument document = .ok schema ↔ document.Describes schema.toModel := by
  rw [ofDocument, bind_eq_ok_iff, ← toModel_eq_ok_iff schema.wellFormed]
  constructor
  · rintro ⟨model, hmodel, hschema⟩
    rw [hmodel, ofModel_eq_ok_iff.1 hschema]
  · exact fun h => ⟨schema.toModel, h, ofModel_eq_ok_iff.2 rfl⟩

/-! ## Fields without a kind -/

/-- The properties and arguments of a document. -/
def Document.fields (document : Document) : List WrittenField :=
  document.classes.flatMap fun c => c.properties ++ c.methods.flatMap (·.arguments)

/-- What is written does not come to a kind: there is neither type nor domain, or the type is no
name of a kind, or there is no type and nothing declares the domain. -/
inductive WrittenField.Unsettled (field : WrittenField) (domains : List (String × String)) :
    Prop where
  | untyped (htype : field.type = none) (hdomain : field.domain = none) : field.Unsettled domains
  | unknown {name : String} (htype : field.type = some name)
      (hname : ∀ p : Primitive, p.name ≠ name) : field.Unsettled domains
  | undeclared {domain : String} (htype : field.type = none) (hdomain : field.domain = some domain)
      (hpairs : domain ∉ domains.map Prod.fst) : field.Unsettled domains

/-- A field that is left unsettled has no kind. -/
theorem WrittenField.Unsettled.kind?_eq_none {field : WrittenField}
    {domains : List (String × String)} (h : field.Unsettled domains) :
    field.kind? domains = none := by
  rw [WrittenField.kind?]
  cases h with
  | untyped htype hdomain => rw [htype, hdomain]
  | unknown htype hname =>
    rw [htype, Option.eq_none_iff_forall_ne_some]
    exact fun p hp => hname p (Primitive.ofName?_eq_some_iff.1 hp)
  | undeclared htype hdomain hpairs =>
    rw [htype, hdomain]
    dsimp only
    rw [lookup_eq_none_iff.2 hpairs, Option.bind_none]

/-- In a document that describes a model every field comes to a kind. -/
theorem Document.Describes.exists_kind {document : Document} {model : Model}
    (h : document.Describes model) {field : WrittenField} (hfield : field ∈ document.fields) :
    ∃ p, field.kind? document.domains = some p := by
  obtain ⟨written, hwritten, hfield⟩ := List.mem_flatMap.1 hfield
  obtain ⟨c, -, hc⟩ := exists_mem_of_forall₂ h.classes hwritten
  rcases List.mem_append.1 hfield with hproperty | hargument
  · obtain ⟨p, -, hp⟩ := exists_mem_of_forall₂ hc.properties hproperty
    exact ⟨p.primitive, hp.kind⟩
  · obtain ⟨writtenMethod, hmethod, hargument⟩ := List.mem_flatMap.1 hargument
    obtain ⟨m, -, hm⟩ := exists_mem_of_forall₂ hc.methods hmethod
    obtain ⟨a, -, ha⟩ := exists_mem_of_forall₂ hm.arguments hargument
    obtain ⟨p, -, hkind⟩ := ha.kind
    exact ⟨p, hkind⟩

/-- **A schema says what its document says**, in the same order and with the same kinds for
properties and arguments, and there is none for a document in which a field does not come to a
kind. -/
theorem loading_describes (document : Document) :
    (∀ schema, ofDocument document = .ok schema ↔ document.Describes schema.toModel) ∧
      ∀ field ∈ document.fields, field.Unsettled document.domains →
        ∀ schema, ofDocument document ≠ .ok schema := by
  refine ⟨fun schema => ofDocument_eq_ok_iff, fun field hfield hunsettled schema hok => ?_⟩
  obtain ⟨p, hp⟩ := (ofDocument_eq_ok_iff.1 hok).exists_kind hfield
  rw [hunsettled.kind?_eq_none] at hp
  cases hp

/-- The document of `queue`; the type of a property wins over its domain. -/
def queueDocument : Document where
  classes := [{
    id := 50
    name := "queue"
    methods := [{
      id := 10
      name := "declare"
      arguments := [
        ⟨"ticket", some "short", none, some (.number (.integer 0))⟩,
        ⟨"queue-name", none, some "queue-name", some .null⟩,
        ⟨"passive", some "bit", none, some (.bool false)⟩,
        ⟨"durable", some "bit", none, some (.bool false)⟩,
        ⟨"arguments", some "table", none, some (.object [])⟩]
      synchronous := true
      response := some "declare-ok"
      content := false },
      ⟨11, "declare-ok", [], false, none, false⟩]
    properties := [
      ⟨"content-type", some "shortstr", none, none⟩,
      ⟨"priority", some "octet", some "queue-name", none⟩] }]
  domains := [("queue-name", "shortstr")]
  constants := [⟨"reply-success", 200, none⟩]

/-- With its domain the document is loaded; without it an argument has no kind. -/
theorem loading_queue : ofDocument queueDocument = .ok queue ∧
    queueDocument.Describes queue.toModel ∧
    ∀ schema, ofDocument { queueDocument with domains := [] } ≠ .ok schema := by
  have hmodel : queueDocument.toModel = .ok queue.toModel :=
    toOption_eq_some_iff.1 (by decide +kernel)
  have hqueue : ofDocument queueDocument = .ok queue :=
    bind_eq_ok_iff.2 ⟨queue.toModel, hmodel, ofModel_eq_ok_iff.2 rfl⟩
  refine ⟨hqueue, ((loading_describes queueDocument).1 queue).1 hqueue, ?_⟩
  have hfield : ⟨"queue-name", none, some "queue-name", some .null⟩ ∈ queueDocument.fields := by
    simp [Document.fields, queueDocument]
  exact (loading_describes { queueDocument with domains := [] }).2 _ hfield
    (.undeclared rfl rfl List.not_mem_nil)

end Schema

end FrameSchema
