import FrameSchema.Bindings.Source
import FrameSchema.Proofs.Bindings.Lookup
import FrameSchema.Proofs.Codec.Lookup

/-!
# Proofs/Bindings/WellFormed — the module of a schema is well-formed

`Module.WellFormed` lists what a compiler asks of a module: names in one scope are distinct, the
routes of a dispatcher are told apart, and every name that is referred to has exactly one
declaration of the kind that is meant (`Module.Resolves`).  Types and functions take their names
from the lists that the check of a schema keeps free of repetitions (`Schema.nodup_types`,
`Schema.nodup_stems`); constants stand in the scope of the functions and are kept apart from them by
their capitals.
-/

namespace FrameSchema.Bindings

-- Names are only compared here; with their spellings open, unification would compute with texts.
attribute [local irreducible] Identifier.snake Identifier.typeName Identifier.methodTypeName
  Identifier.methodStem Identifier.headerStem

/-! ## Declarations and references -/

/-- The types that every module imports. -/
def importedTypes : List String :=
  ["FieldTable", "FieldValue", "PrimitiveType", "Reader", "WireError"]

/-- The heading of a module imports them, next to the field codec. -/
theorem getLast?_headingLines (runtimePath : String) : (headingLines runtimePath).getLast? =
    some ⟨0, "use " ++ runtimePath ++ "::\x7bself as wire, " ++
      (", ".intercalate importedTypes ++ "\x7d;")⟩ := by
  have hnames : "::\x7bself as wire, FieldTable, FieldValue, PrimitiveType, " ++
      "Reader, WireError\x7d;" =
      "::\x7bself as wire, " ++ (", ".intercalate importedTypes ++ "\x7d;") := by decide
  rw [String.append_assoc, ← hnames, ← String.append_assoc]
  rfl

/-- The name of the type that an item declares. -/
def Item.typeName? : Item → Option String
  | .record r => some r.name
  | .union u => some u.name
  | _ => none

/-- The name of the function or constant that an item declares. -/
def Item.valueName? : Item → Option String
  | .function f => some f.name
  | .constant c => some c.name
  | _ => none

/-- What an item refers to by its name. -/
inductive Reference where
  | record (name : String)
  | union (name : String)
  | variant (union name : String)
  | methodDecoder (name : String)
  | headerDecoder (name : String)

/-- The records that the fields of a record refer to. -/
def Record.references (r : Record) : List Reference :=
  r.fields.filterMap fun f =>
    match f.type with
    | .named name => some (.record name)
    | .stored _ => none

/-- What a function refers to. -/
def Body.references : Body → List Reference
  | .encodeMethod argsType _ _ _ => [.record argsType]
  | .encodeHeader propertiesType _ _ => [.record propertiesType]
  | .decodeMethod valueType _ => [.record valueType]
  | .decodeHeader headerType propertiesType _ => [.record headerType, .record propertiesType]
  | .dispatchMethod union classes =>
    .union union :: classes.flatMap fun c => c.methods.flatMap fun route =>
      [.methodDecoder route.decoder, .variant union route.variant]
  | .dispatchHeader union routes =>
    .union union :: routes.flatMap fun route =>
      [.headerDecoder route.decoder, .variant union route.variant]

/-- What an item refers to. -/
def Item.references : Item → List Reference
  | .record r => r.references
  | .union u => u.variants.map fun v => .record v.payload
  | .conversion c => [.record c.source, .record c.target]
  | .function f => f.body.references
  | .constant _ => []

/-- The numbers by which a dispatcher routes are told apart. -/
def Body.RoutesDistinct : Body → Prop
  | .dispatchMethod _ classes =>
    (classes.map (·.classId)).Nodup ∧ ∀ c ∈ classes, (c.methods.map (·.id)).Nodup
  | .dispatchHeader _ routes => (routes.map (·.id)).Nodup
  | _ => True

namespace Module

/-- The only declaration of a type of this name. -/
def IsOnlyType (module : Module) (name : String) (item : Item) : Prop :=
  (module.items.filter fun i => i.typeName? == some name) = [item]

/-- The only declaration of a function or constant of this name. -/
def IsOnlyValue (module : Module) (name : String) (item : Item) : Prop :=
  (module.items.filter fun i => i.valueName? == some name) = [item]

/-- A reference names exactly one declaration, and that is of the kind that is meant. -/
def Resolves (module : Module) : Reference → Prop
  | .record name => ∃ r, module.IsOnlyType name (.record r)
  | .union name => ∃ u, module.IsOnlyType name (.union u)
  | .variant union name => ∃ u v, module.IsOnlyType union (.union u) ∧
      u.variants.filter (·.name == name) = [v]
  | .methodDecoder name => ∃ doc type fields,
      module.IsOnlyValue name (.function ⟨name, doc, .decodeMethod type fields⟩)
  | .headerDecoder name => ∃ doc type propertiesType fields,
      module.IsOnlyValue name (.function ⟨name, doc, .decodeHeader type propertiesType fields⟩)

/-- **A well-formed module**: what stands in one scope is told apart by its names, each reference is
to one declaration, and no function goes by the name of a dispatcher but the dispatcher. -/
structure WellFormed (module : Module) : Prop where
  typeNames : (importedTypes ++ module.items.filterMap Item.typeName?).Nodup
  valueNames : (module.items.filterMap Item.valueName?).Nodup
  fieldNames : ∀ r ∈ module.records, (r.fields.map (·.name)).Nodup
  variantNames : ∀ u ∈ module.unions, (u.variants.map (·.name)).Nodup
  routes : ∀ f ∈ module.functions, f.body.RoutesDistinct
  references : ∀ item ∈ module.items, ∀ reference ∈ item.references, module.Resolves reference
  methodDispatcher : ∃ doc union classes, module.IsOnlyValue "decode_method"
    (.function ⟨"decode_method", doc, .dispatchMethod union classes⟩)
  headerDispatcher : ∃ doc union routes, module.IsOnlyValue "decode_header"
    (.function ⟨"decode_header", doc, .dispatchHeader union routes⟩)

/-! ## Names in one scope -/

variable {schema : Schema} {options : Options}

/-- The types of a module are two for each header, two for each method, and two unions. -/
theorem typeNames_bindings (schema : Schema) (options : Options) :
    (schema.bindings options).items.filterMap Item.typeName? =
      (schema.headerLayouts.flatMap fun h => [propertiesName h, headerName h]) ++
      (schema.methodLayouts.flatMap fun m => [argsName m, valueName m]) ++
      [messageUnion, headerUnion] := by
  rw [filterMap_items, filterMap_constantItems fun _ => rfl, filterMap_functionItems fun _ => rfl,
    List.append_nil]
  rfl

/-- **No two types share a name**, and none has that of an imported one. -/
theorem nodup_typeNames (schema : Schema) (options : Options) :
    (importedTypes ++ (schema.bindings options).items.filterMap Item.typeName?).Nodup := by
  have htypes : (Schema.ownTypes ++
      ((schema.headerLayouts.flatMap fun h => [propertiesName h, headerName h]) ++
        schema.methodLayouts.flatMap fun m => [argsName m, valueName m])).Nodup := by
    have hperm := (Schema.flatMap_pair_perm propertiesName headerName schema.headerLayouts).append
      (Schema.flatMap_pair_perm argsName valueName schema.methodLayouts)
    rw [(hperm.append_left _).nodup_iff, List.append_assoc]
    exact schema.nodup_types
  rw [typeNames_bindings, ← List.append_assoc, List.perm_append_comm.nodup_iff, ← List.append_assoc]
  exact htypes

/-! ### Functions and constants -/

/-- The values of a module are its constants and its functions. -/
theorem valueNames_bindings (schema : Schema) (options : Options) :
    (schema.bindings options).items.filterMap Item.valueName? =
      (constantItems options schema.toModel).filterMap Item.valueName? ++
      (functionList schema).map (·.name) := by
  rw [filterMap_items, flatMap_filterMap_eq_nil fun _ => rfl, flatMap_filterMap_eq_nil fun _ => rfl,
    List.append_nil, List.append_nil, ← List.filterMap_eq_map]
  exact congrArg (· ++ _) (List.append_nil _)

/-- The constants of a module are spelled in capitals, and no two alike. -/
theorem constantNames_bindings (schema : Schema) (options : Options) :
    ((constantItems options schema.toModel).filterMap Item.valueName?).Nodup ∧
      ∀ name ∈ (constantItems options schema.toModel).filterMap Item.valueName?,
        ∀ x ∈ name.toList, x.isLower = false := by
  rw [constantItems]
  split
  · have hnames : (schema.constants.map (Item.constant ∘ Constant.ofSchema)).filterMap
        Item.valueName? = schema.constants.map fun c => Identifier.constant c.name := by
      rw [List.filterMap_map, ← List.filterMap_eq_map]
      rfl
    rw [hnames]
    refine ⟨schema.wellFormed.constants, fun name hname x hx => ?_⟩
    obtain ⟨c, hc, rfl⟩ := List.mem_map.1 hname
    refine Identifier.isLower_eq_false_of_mem_constant (schema.wellFormed.names c.name ?_) hx
    exact List.mem_append_right _ (List.mem_map_of_mem hc)
  · exact ⟨List.nodup_nil, fun _ h => absurd h List.not_mem_nil⟩

/-- **No two functions or constants share a name.** -/
theorem nodup_valueNames (schema : Schema) (options : Options) :
    ((schema.bindings options).items.filterMap Item.valueName?).Nodup := by
  obtain ⟨hconstants, hcapitals⟩ := constantNames_bindings schema options
  have hfunctions : ((functionList schema).map (·.name)).Nodup := by
    simpa using nodup_function_names schema options
  rw [valueNames_bindings, List.nodup_append']
  refine ⟨hconstants, hfunctions, fun name hconstant hfunction => ?_⟩
  have hsmall {x : Char} (hx : name.toList.head? = some x) : x.isLower = false :=
    hcapitals name hconstant x (List.mem_of_head? hx)
  rw [map_name_functionList, List.mem_append, List.mem_map, List.mem_map] at hfunction
  rcases hfunction with ⟨s, _, rfl⟩ | ⟨s, _, rfl⟩
  · exact absurd (hsmall (head?_encoderName s)) (by decide)
  · exact absurd (hsmall (head?_decoderName s)) (by decide)

/-! ## References -/

/-- **A type is declared once**: no other item has its name. -/
theorem isOnlyType_of_mem {name : String} {item : Item} (hname : item.typeName? = some name)
    (h : item ∈ (schema.bindings options).items) :
    (schema.bindings options).IsOnlyType name item :=
  filter_of_nodup_filterMap hname (nodup_typeNames schema options).of_append_right h

/-- **A function is declared once**: no other item has its name. -/
theorem isOnlyValue_of_mem {f : Function} (h : f ∈ functionList schema) :
    (schema.bindings options).IsOnlyValue f.name (.function f) :=
  filter_of_nodup_filterMap (f := Item.valueName?) rfl (nodup_valueNames schema options)
    (mem_items_of_function h)

section Resolution

variable {m : Layout.Method} {h : Layout.Header}

theorem isOnlyType_argsRecord (hm : m ∈ schema.methodLayouts) :
    (schema.bindings options).IsOnlyType (argsName m) (.record (argsRecord options m)) :=
  isOnlyType_of_mem rfl (mem_items_of_method hm (by simp [methodItems]))

theorem isOnlyType_valueRecord (hm : m ∈ schema.methodLayouts) :
    (schema.bindings options).IsOnlyType (valueName m) (.record (valueRecord options m)) :=
  isOnlyType_of_mem rfl (mem_items_of_method hm (by simp [methodItems]))

theorem isOnlyType_propertiesRecord (hmem : h ∈ schema.headerLayouts) :
    (schema.bindings options).IsOnlyType (propertiesName h)
      (.record (propertiesRecord options h)) :=
  isOnlyType_of_mem rfl (mem_items_of_header hmem (by simp [headerItems]))

theorem isOnlyType_headerRecord (hmem : h ∈ schema.headerLayouts) :
    (schema.bindings options).IsOnlyType (headerName h) (.record (headerRecord options h)) :=
  isOnlyType_of_mem rfl (mem_items_of_header hmem (by simp [headerItems]))

theorem isOnlyType_messages : (schema.bindings options).IsOnlyType messageUnion
    (.union (messages options schema.methodLayouts)) :=
  isOnlyType_of_mem rfl (mem_items_iff.2 (by simp))

theorem isOnlyType_headers : (schema.bindings options).IsOnlyType headerUnion
    (.union (headers options schema.headerLayouts)) :=
  isOnlyType_of_mem rfl (mem_items_iff.2 (by simp))

theorem resolves_methodVariant (hm : m ∈ schema.methodLayouts) :
    (schema.bindings options).Resolves (.variant messageUnion (methodVariant m).name) :=
  ⟨_, _, isOnlyType_messages, filter_messageVariants options hm⟩

theorem resolves_headerVariant (hmem : h ∈ schema.headerLayouts) :
    (schema.bindings options).Resolves (.variant headerUnion (headerVariant h).name) :=
  ⟨_, _, isOnlyType_headers, filter_headerVariants options hmem⟩

theorem resolves_methodDecoder (hm : m ∈ schema.methodLayouts) :
    (schema.bindings options).Resolves (.methodDecoder (methodDecoder m).name) :=
  ⟨_, _, _, isOnlyValue_of_mem (mem_functionList_iff.2 (.inr (.inr (.inl ⟨m, hm, rfl⟩))))⟩

theorem resolves_headerDecoder (hmem : h ∈ schema.headerLayouts) :
    (schema.bindings options).Resolves (.headerDecoder (headerDecoder h).name) :=
  ⟨_, _, _, _,
    isOnlyValue_of_mem (mem_functionList_iff.2 (.inr (.inr (.inr (.inl ⟨h, hmem, rfl⟩)))))⟩

/-! ### Item by item -/

/-- The fields of a frame are stored as they are and refer to nothing. -/
theorem references_ofLayout {r : Record} {isOptional : Layout.Field → Bool}
    {fields : List Layout.Field}
    (h : r.fields = fields.map fun f => Field.ofLayout (isOptional f) f) : r.references = [] := by
  rw [Record.references, h, List.filterMap_map]
  exact List.filterMap_eq_nil_iff.2 fun _ _ => rfl

/-- Constants refer to nothing. -/
theorem references_constantItems {item : Item} {model : Schema.Model}
    (h : item ∈ constantItems options model) : item.references = [] := by
  rw [constantItems] at h
  split at h
  · obtain ⟨c, _, rfl⟩ := List.mem_map.1 h
    rfl
  · exact absurd h List.not_mem_nil

theorem resolves_headerItems (hmem : h ∈ schema.headerLayouts) {item : Item}
    (hitem : item ∈ headerItems options h) {reference : Reference}
    (href : reference ∈ item.references) : (schema.bindings options).Resolves reference := by
  rw [headerItems, List.mem_cons, List.mem_singleton] at hitem
  rcases hitem with rfl | rfl
  · rw [Item.references, references_ofLayout rfl] at href
    exact absurd href List.not_mem_nil
  · obtain rfl := List.mem_singleton.1 href
    exact ⟨_, isOnlyType_propertiesRecord hmem⟩

/-- What the types of a method refer to is declared. -/
theorem resolves_methodItems (hm : m ∈ schema.methodLayouts) {item : Item}
    (hitem : item ∈ methodItems options m) {reference : Reference}
    (href : reference ∈ item.references) : (schema.bindings options).Resolves reference := by
  rw [methodItems, List.mem_cons, List.mem_cons, List.mem_singleton] at hitem
  rcases hitem with rfl | rfl | rfl
  · rw [Item.references, references_ofLayout rfl] at href
    exact absurd href List.not_mem_nil
  · rw [Item.references, references_ofLayout rfl] at href
    exact absurd href List.not_mem_nil
  · rw [Item.references, List.mem_cons, List.mem_singleton] at href
    rcases href with rfl | rfl
    · exact ⟨_, isOnlyType_valueRecord hm⟩
    · exact ⟨_, isOnlyType_argsRecord hm⟩

/-- **What the dispatcher of method frames refers to**: each route leads to the decoder and the
variant of one method. -/
theorem resolves_methodDispatcher {reference : Reference} (href : reference ∈
      (methodDispatcher schema.methodLayouts schema.headerLayouts).body.references) :
    (schema.bindings options).Resolves reference := by
  rw [methodDispatcher, Body.references, List.mem_cons, List.mem_flatMap] at href
  rcases href with rfl | ⟨c, hc, href⟩
  · exact ⟨_, isOnlyType_messages⟩
  · obtain ⟨h, _, rfl⟩ := List.mem_map.1 hc
    obtain ⟨route, hroute, href⟩ := List.mem_flatMap.1 href
    obtain ⟨m, hm, rfl⟩ := List.mem_map.1 hroute
    have hmem := (List.mem_filter.1 hm).1
    rw [List.mem_cons, List.mem_singleton] at href
    rcases href with rfl | rfl
    · exact resolves_methodDecoder hmem
    · exact resolves_methodVariant hmem

/-- What the dispatcher of headers refers to is declared. -/
theorem resolves_headerDispatcher {reference : Reference}
    (href : reference ∈ (headerDispatcher schema.headerLayouts).body.references) :
    (schema.bindings options).Resolves reference := by
  rw [headerDispatcher, Body.references, List.mem_cons, List.mem_flatMap] at href
  rcases href with rfl | ⟨route, hroute, href⟩
  · exact ⟨_, isOnlyType_headers⟩
  · obtain ⟨h, hmem, rfl⟩ := List.mem_map.1 hroute
    rw [List.mem_cons, List.mem_singleton] at href
    rcases href with rfl | rfl
    · exact resolves_headerDecoder hmem
    · exact resolves_headerVariant hmem

/-- **What a function refers to is declared**, be it a type, a variant or a function. -/
theorem resolves_function {f : Function} (hf : f ∈ functionList schema) {reference : Reference}
    (href : reference ∈ f.body.references) : (schema.bindings options).Resolves reference := by
  rcases mem_functionList_iff.1 hf with
    ⟨m, hm, rfl⟩ | ⟨h, hmem, rfl⟩ | ⟨m, hm, rfl⟩ | ⟨h, hmem, rfl⟩ | rfl | rfl
  · obtain rfl := List.mem_singleton.1 href
    exact ⟨_, isOnlyType_argsRecord hm⟩
  · obtain rfl := List.mem_singleton.1 href
    exact ⟨_, isOnlyType_propertiesRecord hmem⟩
  · obtain rfl := List.mem_singleton.1 href
    exact ⟨_, isOnlyType_valueRecord hm⟩
  · rw [headerDecoder, Body.references, List.mem_cons, List.mem_singleton] at href
    rcases href with rfl | rfl
    · exact ⟨_, isOnlyType_headerRecord hmem⟩
    · exact ⟨_, isOnlyType_propertiesRecord hmem⟩
  · exact resolves_methodDispatcher href
  · exact resolves_headerDispatcher href

/-- **Every reference has its declaration**, whatever item it stands in. -/
theorem resolves_of_mem_references {item : Item} (h : item ∈ (schema.bindings options).items)
    {reference : Reference} (href : reference ∈ item.references) :
    (schema.bindings options).Resolves reference := by
  rcases mem_items_iff.1 h with hitem | ⟨_, hmem, hitem⟩ | ⟨_, hm, hitem⟩ | rfl | rfl | ⟨f, hf, rfl⟩
  · rw [references_constantItems hitem] at href
    exact absurd href List.not_mem_nil
  · exact resolves_headerItems hmem hitem href
  · exact resolves_methodItems hm hitem href
  · rw [Item.references, messages, List.map_map, List.mem_map] at href
    obtain ⟨m, hm, rfl⟩ := href
    exact ⟨_, isOnlyType_valueRecord hm⟩
  · rw [Item.references, headers, List.map_map, List.mem_map] at href
    obtain ⟨h, hmem, rfl⟩ := href
    exact ⟨_, isOnlyType_headerRecord hmem⟩
  · exact resolves_function hf href

end Resolution

/-! ## Fields, variants and routes -/

/-- The fields of a record bear the identifiers of the fields of its frame. -/
theorem nodup_names_ofLayout {fields : List Layout.Field} {isOptional : Layout.Field → Bool}
    (h : Schema.FieldNamesDistinct (fields.map (·.name))) :
    ((fields.map fun f => Field.ofLayout (isOptional f) f).map (·.name)).Nodup := by
  have hidents := h.idents
  simp only [List.map_map, Function.comp_def] at hidents ⊢
  exact hidents

theorem mem_records_iff {r : Record} : r ∈ (schema.bindings options).records ↔
    (∃ h ∈ schema.headerLayouts, propertiesRecord options h = r ∨ headerRecord options h = r) ∨
      ∃ m ∈ schema.methodLayouts, argsRecord options m = r ∨ valueRecord options m = r := by
  rw [records, filterMap_items, filterMap_constantItems fun _ => rfl,
    filterMap_functionItems fun _ => rfl]
  simp [headerItems, methodItems, eq_comm]

/-- No two fields of a record have one name. -/
theorem nodup_fieldNames {r : Record} (h : r ∈ (schema.bindings options).records) :
    (r.fields.map (·.name)).Nodup := by
  rcases mem_records_iff.1 h with ⟨h, hmem, rfl | rfl⟩ | ⟨m, hm, rfl | rfl⟩
  · exact nodup_names_ofLayout (Schema.headerFields_distinct hmem)
  · simp [headerRecord]
  · exact nodup_names_ofLayout (Schema.methodFields_distinct hm)
  · exact nodup_names_ofLayout (Schema.methodFields_distinct hm)

theorem nodup_variantNames {u : Union} (h : u ∈ (schema.bindings options).unions) :
    (u.variants.map (·.name)).Nodup := by
  obtain rfl | rfl : u = messages options schema.methodLayouts ∨
      u = headers options schema.headerLayouts := by simpa using h
  · exact nodup_messageVariants schema
  · exact nodup_headerVariants schema

/-- **No dispatcher has two routes for one number.** -/
theorem routesDistinct_function {f : Function} (hf : f ∈ functionList schema) :
    f.body.RoutesDistinct := by
  rcases mem_functionList_iff.1 hf with
    ⟨m, _, rfl⟩ | ⟨h, _, rfl⟩ | ⟨m, _, rfl⟩ | ⟨h, _, rfl⟩ | rfl | rfl
  · trivial
  · trivial
  · trivial
  · trivial
  · refine ⟨?_, fun c hc => ?_⟩
    · rw [List.map_map]
      exact schema.nodup_header_classIds
    · obtain ⟨h, _, rfl⟩ := List.mem_map.1 hc
      rw [classRoute, List.map_map]
      exact schema.nodup_methodIds_of_class h.classId
  · rw [headerDispatcher, Body.RoutesDistinct, List.map_map]
    exact schema.nodup_header_classIds

/-! ## The module as a whole -/

/-- **The module of a schema is well-formed.** -/
theorem wellFormed_bindings (schema : Schema) (options : Options) :
    (schema.bindings options).WellFormed where
  typeNames := nodup_typeNames schema options
  valueNames := nodup_valueNames schema options
  fieldNames _ h := nodup_fieldNames h
  variantNames _ h := nodup_variantNames h
  routes f h := routesDistinct_function (by simpa using h)
  references _ h _ href := resolves_of_mem_references h href
  methodDispatcher := ⟨_, _, _, isOnlyValue_of_mem
    (f := Bindings.methodDispatcher schema.methodLayouts schema.headerLayouts)
    (mem_functionList_iff.2 (by simp))⟩
  headerDispatcher := ⟨_, _, _, isOnlyValue_of_mem
    (f := Bindings.headerDispatcher schema.headerLayouts) (mem_functionList_iff.2 (by simp))⟩

/-- **Every schema has a codec and, whatever the options, a module, and the module is
well-formed.** -/
theorem exists_wellFormed_module (schema : Schema) (options : Options) :
    ∃ module codec, Module.ofSchema schema options = .ok module ∧
      Codec.ofSchema schema = .ok codec ∧ module.WellFormed :=
  ⟨_, _, ofSchema_eq schema options, Codec.ofSchema_eq schema, wellFormed_bindings schema options⟩

end Module

end FrameSchema.Bindings
