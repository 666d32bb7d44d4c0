import FrameSchema.Proofs.Bindings.WellFormed

/-!
# Proofs/Bindings/FieldLists — the declarations of a message carry one field list

Nothing but its place names a field on the wire, so what is declared for one message has to agree on
the fields, one by one and in schema order.  The field list of a message is the one its encoder
writes, for that knows the identifier, the kind and the default of each field; the records, the
conversion and the decoder each show a part of it (`EncodeField.inArgs` and its siblings).

`Module.MethodCarries` and `Module.HeaderCarries` say that whatever is found under the names of a
message carries a given list, and the numbers of the message besides.  Whether the list is the right
one is a question of the schema alone (`EncodeField.IsArgument`, `EncodeField.IsProperty`).
-/

namespace FrameSchema.Bindings

-- Names are only compared here; with their spellings open, unification would compute with texts.
attribute [local irreducible] Identifier.snake Identifier.typeName Identifier.methodTypeName
  Identifier.methodStem Identifier.headerStem

/-! ## Field lists -/

namespace EncodeField

/-- The field that an argument asks for. -/
structure IsArgument (model : Schema.Model) (a : Schema.Argument) (f : EncodeField) : Prop where
  ident : f.ident = Identifier.snake a.name
  primitive : model.resolve a = .ok f.primitive
  default : f.default = a.default

/-- The field that a property asks for; it has no default. -/
structure IsProperty (p : Schema.Property) (f : EncodeField) : Prop where
  ident : f.ident = Identifier.snake p.name
  primitive : f.primitive = p.primitive
  default : f.default = none

/-- A field of the record of arguments: one with a default, and no other, may be left empty. -/
def inArgs (f : EncodeField) : Field :=
  ⟨f.ident, .stored f.primitive.storage, f.default.isSome, f.default⟩

/-- A field of the record of the full value, where none may be empty. -/
def inValue (f : EncodeField) : Field := ⟨f.ident, .stored f.primitive.storage, false, none⟩

/-- A field of the record of properties, where each may be empty. -/
def inProperties (f : EncodeField) : Field := ⟨f.ident, .stored f.primitive.storage, true, none⟩

/-- A field of the conversion: one with a default, and no other, is wrapped. -/
def inConversion (f : EncodeField) : String × Bool := (f.ident, f.default.isSome)

/-- A field that the decoder reads. -/
def inDecoder (f : EncodeField) : DecodeField := ⟨f.ident, f.primitive⟩

end EncodeField

/-- The routes of a dispatcher of method frames, each behind the number of its class. -/
def methodRoutes (classes : List ClassRoute) : List (UInt16 × Route) :=
  classes.flatMap fun c => c.methods.map (c.classId, ·)

namespace Module

/-- The conversions, in order. -/
def conversions (module : Module) : List Conversion :=
  module.items.filterMap fun | .conversion c => some c | _ => none

/-- **The declarations of a method carry a field list**, and the numbers of the method. -/
structure MethodCarries (module : Module) (typeName stem : String) (classId methodId : UInt16)
    (fields : List EncodeField) : Prop where
  args : ∃ r, module.record? (typeName ++ "Args") = some r ∧ r.fields = fields.map (·.inArgs)
  value : ∃ r, module.record? typeName = some r ∧ r.fields = fields.map (·.inValue) ∧
    r.consts.filter (·.name == "CLASS_ID") = [⟨"CLASS_ID", .number classId⟩] ∧
    r.consts.filter (·.name == "METHOD_ID") = [⟨"METHOD_ID", .number methodId⟩]
  conversion : ∃ conversion, module.conversions.filter (·.source == typeName) = [conversion] ∧
    conversion.target = typeName ++ "Args" ∧ conversion.fields = fields.map (·.inConversion)
  encoder : ∃ f, module.function? ("encode_" ++ stem) = some f ∧
    f.body = .encodeMethod (typeName ++ "Args") classId methodId fields ∧
    f.body.fieldTypes = some (fields.map (·.primitive))
  decoder : ∃ f, module.function? ("decode_" ++ stem) = some f ∧
    f.body = .decodeMethod typeName (fields.map (·.inDecoder)) ∧
    f.body.fieldTypes = some (fields.map (·.primitive))
  variant : ∃ v, module.IsVariant "ReceivedMessage" v ∧ v.name = typeName ∧ v.payload = typeName ∧
    v.classId = classId ∧ v.methodId = some methodId
  route : ∃ f classes, module.function? "decode_method" = some f ∧
    f.body = .dispatchMethod "ReceivedMessage" classes ∧
    (methodRoutes classes).filter (·.2.variant == typeName) =
      [(classId, ⟨methodId, "decode_" ++ stem, typeName⟩)]

/-- **The declarations of a header carry a field list**, and the number of the class. -/
structure HeaderCarries (module : Module) (typeName stem : String) (classId : UInt16)
    (fields : List EncodeField) : Prop where
  properties : ∃ r, module.record? (typeName ++ "Properties") = some r ∧
    r.fields = fields.map (·.inProperties)
  header : ∃ r, module.record? (typeName ++ "Header") = some r ∧
    r.fields.filter (·.name == "properties") =
      [⟨"properties", .named (typeName ++ "Properties"), false, none⟩] ∧
    r.consts.filter (·.name == "CLASS_ID") = [⟨"CLASS_ID", .number classId⟩]
  encoder : ∃ f, module.function? ("encode_" ++ stem) = some f ∧
    f.body = .encodeHeader (typeName ++ "Properties") classId fields ∧
    f.body.fieldTypes = some (fields.map (·.primitive))
  decoder : ∃ f, module.function? ("decode_" ++ stem) = some f ∧
    f.body = .decodeHeader (typeName ++ "Header") (typeName ++ "Properties")
      (fields.map (·.inDecoder)) ∧
    f.body.fieldTypes = some (fields.map (·.primitive))
  variant : ∃ v, module.IsVariant "ReceivedHeader" v ∧ v.name = typeName ∧
    v.payload = typeName ++ "Header" ∧ v.classId = classId ∧ v.methodId = none
  route : ∃ f routes, module.function? "decode_header" = some f ∧
    f.body = .dispatchHeader "ReceivedHeader" routes ∧
    routes.filter (·.variant == typeName) = [⟨classId, "decode_" ++ stem, typeName⟩]

variable {schema : Schema} {options : Options}

/-! ## Declarations found by their names -/

/-- The only declaration of a name is the one that is found. -/
theorem record?_of_isOnlyType {module : Module} {name : String} {r : Record}
    (h : module.IsOnlyType name (.record r)) : module.record? name = some r := by
  have hselect : module.records.filter (·.name == name) = records
      ⟨module.runtimePath, module.items.filter fun i => i.typeName? == some name⟩ := by
    rw [records, records, List.filter_filterMap, List.filterMap_filter]
    refine List.filterMap_congr fun item _ => ?_
    cases item with
    | record r => simp [Item.typeName?, Option.filter]
    | union u => simp
    | conversion c => rfl
    | function f => rfl
    | constant c => rfl
  rw [record?, ← List.head?_filter, hselect, h]
  rfl

/-- A module has a conversion for the arguments of each method, and no others. -/
@[simp] theorem conversions_bindings (schema : Schema) (options : Options) :
    (schema.bindings options).conversions = schema.methodLayouts.map argsConversion := by
  rw [conversions, filterMap_items, filterMap_constantItems fun _ => rfl,
    flatMap_filterMap_eq_nil fun _ => rfl, filterMap_functionItems fun _ => rfl, List.append_nil,
    List.map_eq_flatMap]
  exact List.append_nil _

/-- **The conversion of a method is the only one of its full value.** -/
theorem filter_conversions {m : Layout.Method} (hm : m ∈ schema.methodLayouts) :
    (schema.bindings options).conversions.filter (·.source == (argsConversion m).source) =
      [argsConversion m] := by
  have hsources : ((schema.methodLayouts.map argsConversion).map (·.source)).Nodup := by
    simp only [List.map_map, Function.comp_def, argsConversion]
    exact schema.nodup_method_types
  rw [conversions_bindings]
  exact filter_of_nodup_map hsources (List.mem_map_of_mem hm)

/-! ## Routes -/

/-- The routes of a schema's dispatcher of method frames, class by class. -/
def classRoutes (schema : Schema) : List ClassRoute :=
  schema.headerLayouts.map fun h => classRoute schema.methodLayouts h.classId

theorem map_methods_classRoute (methods : List Layout.Method) (classId : UInt16) :
    (classRoute methods classId).methods.map (classId, ·) =
      (methods.filter (·.classId == classId)).map fun m => (m.classId, methodRoute m) := by
  rw [classRoute, List.map_map]
  exact List.map_congr_left fun m hm => by rw [eq_of_beq (List.mem_filter.1 hm).2]; rfl

/-- **One route leads to each method**, from its own numbers, and no route leads elsewhere. -/
theorem methodRoutes_perm (schema : Schema) : (methodRoutes (classRoutes schema)).Perm
    (schema.methodLayouts.map fun m => (m.classId, methodRoute m)) := by
  have hroutes : methodRoutes (classRoutes schema) =
      ((schema.headerLayouts.map (·.classId)).flatMap fun classId =>
        schema.methodLayouts.filter (·.classId == classId)).map
          fun m => (m.classId, methodRoute m) := by
    rw [methodRoutes, classRoutes, List.flatMap_map, List.map_flatMap, List.flatMap_map]
    exact List.flatMap_congr fun h _ => map_methods_classRoute schema.methodLayouts h.classId
  rw [hroutes]
  exact (flatMap_filter_perm schema.nodup_header_classIds
    fun m hm => Schema.classId_mem_of_mem hm).map _

/-- No two methods are routed to one variant. -/
theorem filter_methodRoutes {m : Layout.Method} (hm : m ∈ schema.methodLayouts) :
    (methodRoutes (classRoutes schema)).filter (·.2.variant == (methodRoute m).variant) =
      [(m.classId, methodRoute m)] := by
  have hperm := methodRoutes_perm schema
  have hvariants : ((methodRoutes (classRoutes schema)).map (·.2.variant)).Nodup := by
    rw [(hperm.map _).nodup_iff, List.map_map]
    exact schema.nodup_method_types
  exact filter_of_nodup_map hvariants (hperm.mem_iff.2 (List.mem_map_of_mem hm))

theorem filter_headerRoutes {h : Layout.Header} (hmem : h ∈ schema.headerLayouts) :
    (schema.headerLayouts.map headerRoute).filter (·.variant == (headerRoute h).variant) =
      [headerRoute h] := by
  have hvariants : ((schema.headerLayouts.map headerRoute).map (·.variant)).Nodup := by
    rw [List.map_map]
    exact schema.nodup_header_types
  exact filter_of_nodup_map hvariants (List.mem_map_of_mem hmem)

/-! ## The declarations of a frame -/

/-- The field list of a frame of this layout. -/
def fieldsOf (fields : List Layout.Field) : List EncodeField := fields.map EncodeField.ofLayout

/-- What a declaration shows of each field, it shows of the field list. -/
theorem map_fieldsOf {α : Type} {view : EncodeField → α} {declare : Layout.Field → α}
    {fields : List Layout.Field} (h : ∀ f ∈ fields, view (.ofLayout f) = declare f) :
    fields.map declare = (fieldsOf fields).map view := by
  rw [fieldsOf, List.map_map]
  exact List.map_congr_left fun f hf => (h f hf).symm

@[simp] theorem inArgs_ofLayout (f : Layout.Field) :
    (EncodeField.ofLayout f).inArgs = Field.ofLayout f.default.isSome f := by
  rw [EncodeField.inArgs, EncodeField.ofLayout, Field.ofLayout]
  cases f.default with
  | none => rfl
  | some d => rfl

/-- **A method is declared, encoded and decoded with the fields of its layout.** -/
theorem methodCarries_of_mem {m : Layout.Method} (hm : m ∈ schema.methodLayouts) :
    (schema.bindings options).MethodCarries m.typeName m.stem m.classId m.methodId
      (fieldsOf m.fields) := by
  have hdecode : m.fields.map DecodeField.ofLayout = (fieldsOf m.fields).map (·.inDecoder) :=
    map_fieldsOf fun _ _ => rfl
  constructor
  case args =>
    exact ⟨_, record?_of_isOnlyType (isOnlyType_argsRecord hm),
      map_fieldsOf fun f _ => inArgs_ofLayout f⟩
  case value =>
    exact ⟨_, record?_of_isOnlyType (isOnlyType_valueRecord hm), map_fieldsOf fun _ _ => rfl,
      rfl, rfl⟩
  case conversion => exact ⟨_, filter_conversions hm, rfl, map_fieldsOf fun _ _ => rfl⟩
  case encoder => exact ⟨_, function?_methodEncoder options hm, rfl, rfl⟩
  case decoder =>
    refine ⟨_, function?_methodDecoder options hm, congrArg _ hdecode, ?_⟩
    rw [methodDecoder, Body.fieldTypes, hdecode, List.map_map]
    rfl
  case variant => exact ⟨_, isVariant_methodVariant options hm, rfl, rfl, rfl, rfl⟩
  case route => exact ⟨_, _, function?_methodDispatcher, rfl, filter_methodRoutes hm⟩

/-- No property has a default that its record could tell. -/
theorem inProperties_ofLayout {h : Layout.Header} (hmem : h ∈ schema.headerLayouts) :
    ∀ f ∈ h.fields, (EncodeField.ofLayout f).inProperties = Field.ofLayout true f := by
  obtain ⟨c, _, rfl⟩ := Schema.mem_headerLayouts.1 hmem
  intro f hf
  obtain ⟨p, _, rfl⟩ := List.mem_map.1 hf
  rfl

/-- **A header is declared, encoded and decoded with the fields of its layout.** -/
theorem headerCarries_of_mem {h : Layout.Header} (hmem : h ∈ schema.headerLayouts) :
    (schema.bindings options).HeaderCarries h.classTypeName h.stem h.classId
      (fieldsOf h.fields) := by
  have hdecode : h.fields.map DecodeField.ofLayout = (fieldsOf h.fields).map (·.inDecoder) :=
    map_fieldsOf fun _ _ => rfl
  constructor
  case properties =>
    exact ⟨_, record?_of_isOnlyType (isOnlyType_propertiesRecord hmem),
      map_fieldsOf (inProperties_ofLayout hmem)⟩
  case header => exact ⟨_, record?_of_isOnlyType (isOnlyType_headerRecord hmem), rfl, rfl⟩
  case encoder => exact ⟨_, function?_headerEncoder options hmem, rfl, rfl⟩
  case decoder =>
    refine ⟨_, function?_headerDecoder options hmem, congrArg _ hdecode, ?_⟩
    rw [headerDecoder, Body.fieldTypes, hdecode, List.map_map]
    rfl
  case variant => exact ⟨_, isVariant_headerVariant options hmem, rfl, rfl, rfl, rfl⟩
  case route => exact ⟨_, _, function?_headerDispatcher, rfl, filter_headerRoutes hmem⟩

/-! ## The field list of a message -/

/-- The fields of a method stand for its arguments, in order. -/
theorem forall₂_isArgument {c : Schema.Class} (hc : c ∈ schema.classes) {m : Schema.Method}
    (hm : m ∈ c.methods) : List.Forall₂ (EncodeField.IsArgument schema.toModel) m.arguments
      (fieldsOf (Layout.Method.settled schema.toModel c m).fields) := by
  rw [fieldsOf, Layout.Method.settled, List.map_map, List.forall₂_map_right_iff, List.forall₂_same]
  intro a ha
  obtain ⟨primitive, hp, _⟩ := schema.wellFormed.arguments c hc m hm a ha
  refine ⟨rfl, ?_, rfl⟩
  rw [Function.comp, Layout.Field.settled, hp]
  rfl

theorem forall₂_isProperty (c : Schema.Class) : List.Forall₂ EncodeField.IsProperty c.properties
    (fieldsOf (Layout.Header.ofClass c).fields) := by
  rw [fieldsOf, Layout.Header.ofClass, List.map_map, List.forall₂_map_right_iff, List.forall₂_same]
  exact fun _ _ => ⟨rfl, rfl, rfl⟩

/-- **The declarations of each message carry one field list**: those of a header the list that the
properties of its class ask for, and those of a method the list that its arguments ask for. -/
theorem exists_module_carrying_fields (schema : Schema) (options : Options) :
    ∃ module, Module.ofSchema schema options = .ok module ∧ ∀ c ∈ schema.classes,
      (∃ fields, List.Forall₂ EncodeField.IsProperty c.properties fields ∧
        module.HeaderCarries (Identifier.typeName c.name) (Identifier.headerStem c.name) c.id
          fields) ∧
      ∀ m ∈ c.methods, ∃ fields,
        List.Forall₂ (EncodeField.IsArgument schema.toModel) m.arguments fields ∧
        module.MethodCarries (Identifier.methodTypeName c.name m.name)
          (Identifier.methodStem c.name m.name) c.id m.id fields := by
  refine ⟨_, ofSchema_eq schema options, fun c hc => ⟨?_, fun m hm => ?_⟩⟩
  · have hmem := Schema.mem_headerLayouts.2 ⟨c, hc, rfl⟩
    exact ⟨_, forall₂_isProperty c, headerCarries_of_mem hmem⟩
  · have hmem := Schema.mem_methodLayouts.2 ⟨c, hc, m, hm, rfl⟩
    exact ⟨_, forall₂_isArgument hc hm, methodCarries_of_mem hmem⟩

/-- The request's five fields, and the two properties of its class. -/
theorem queue_module_carrying_fields : ∃ module, Module.ofSchema Schema.queue {} = .ok module ∧
    (∃ properties, properties.length = 2 ∧
      module.HeaderCarries "Queue" "queue_header" 50 properties) ∧
    ∃ fields, fields.length = 5 ∧
      module.MethodCarries "QueueDeclare" "queue_declare" 50 10 fields := by
  obtain ⟨module, hmodule, hall⟩ := exists_module_carrying_fields Schema.queue {}
  obtain ⟨⟨properties, hproperties, hheader⟩, hmethods⟩ := hall Schema.queueClass
    List.mem_cons_self
  obtain ⟨fields, hfields, hmethod⟩ := hmethods Schema.declare List.mem_cons_self
  have htype : Identifier.typeName "queue" = "Queue" := by decide +kernel
  have hstem : Identifier.headerStem "queue" = "queue_header" := by decide +kernel
  have hmethodType : Identifier.methodTypeName "queue" "declare" = "QueueDeclare" := by
    decide +kernel
  have hmethodStem : Identifier.methodStem "queue" "declare" = "queue_declare" := by
    decide +kernel
  refine ⟨module, hmodule, ⟨properties, hproperties.length_eq.symm, ?_⟩,
    fields, hfields.length_eq.symm, ?_⟩
  · rw [← htype, ← hstem]
    exact hheader
  · rw [← hmethodType, ← hmethodStem]
    exact hmethod

end Module

end FrameSchema.Bindings
