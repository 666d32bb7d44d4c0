import FrameSchema.Layout
import FrameSchema.Proofs.Identifier
import FrameSchema.Proofs.Schema.WellFormed
import Mathlib.Data.List.Perm.Basic

/-!
# Proofs/Layout — the layouts of a schema

Every argument of a schema has a kind, so the layouts of all methods can be settled
(`Layout.methods_eq`).  What the check says of names and numbers is told here of layouts: no two
methods share numbers, a display name, a stem or a type, no two headers a class, and no two fields
of a frame an identifier or a key.
-/

namespace FrameSchema

/-! ## Settling -/

namespace Layout

open Schema (Model Argument)

/-- The field of an argument; an argument of no kind, which no schema has, is taken for a bit. -/
def Field.settled (model : Model) (a : Argument) : Field :=
  ⟨a.name, ((model.resolve a).toOption).getD .bit, a.default⟩

/-- The layout of a method, its fields being settled. -/
def Method.settled (model : Model) (c : Schema.Class) (m : Schema.Method) : Method :=
  ⟨c.id, m.id, c.name, m.name, m.synchronous, m.content, m.response,
    m.arguments.map (Field.settled model)⟩

section Settled

variable {model : Model} {c : Schema.Class} {m : Schema.Method}

theorem ofMethod_eq (h : ∀ a ∈ m.arguments, model.Settles a) :
    Method.ofMethod model c m = .ok (Method.settled model c m) := by
  have hfields : (m.arguments.mapM fun a => do
      return (⟨a.name, ← model.resolve a, a.default⟩ : Field)) =
      .ok (m.arguments.map (Field.settled model)) := by
    refine mapM_eq_pure_map fun a ha => ?_
    obtain ⟨primitive, hp, _⟩ := h a ha
    rw [Field.settled, hp]
    rfl
  rw [Method.ofMethod, hfields]
  rfl

/-- **The layouts of all methods can be settled**, and stand in schema order. -/
theorem methods_eq (h : model.WellFormed) : methods model =
    .ok (model.classes.flatMap fun c => c.methods.map (Method.settled model c)) := by
  have hclasses : (model.classes.mapM fun c => c.methods.mapM (Method.ofMethod model c)) =
      .ok (model.classes.map fun c => c.methods.map (Method.settled model c)) :=
    mapM_eq_pure_map fun c hc => mapM_eq_pure_map fun m hm => ofMethod_eq (h.arguments c hc m hm)
  rw [methods, hclasses, List.flatMap_def]
  rfl

end Settled

end Layout

namespace Schema

variable {schema : Schema}

/-- The layouts of the methods of a schema. -/
def methodLayouts (schema : Schema) : List Layout.Method :=
  schema.classes.flatMap fun c => c.methods.map (Layout.Method.settled schema.toModel c)

/-- The layouts of the headers of a schema. -/
def headerLayouts (schema : Schema) : List Layout.Header := schema.classes.map Layout.Header.ofClass

/-- **The methods of a schema have layouts**, in the order of their classes. -/
@[simp] theorem layoutMethods_eq (schema : Schema) :
    Layout.methods schema.toModel = .ok schema.methodLayouts :=
  Layout.methods_eq schema.wellFormed

theorem ofMethod_eq {c : Class} (hc : c ∈ schema.classes) {m : Method} (hm : m ∈ c.methods) :
    Layout.Method.ofMethod schema.toModel c m = .ok (Layout.Method.settled schema.toModel c m) :=
  Layout.ofMethod_eq (schema.wellFormed.arguments c hc m hm)

/-- The method layouts are those of the methods of the classes. -/
theorem mem_methodLayouts {layout : Layout.Method} : layout ∈ schema.methodLayouts ↔
    ∃ c ∈ schema.classes, ∃ m ∈ c.methods, Layout.Method.settled schema.toModel c m = layout := by
  rw [methodLayouts, List.mem_flatMap]
  exact exists_congr fun c => and_congr_right fun _ => List.mem_map

theorem mem_headerLayouts {layout : Layout.Header} : layout ∈ schema.headerLayouts ↔
    ∃ c ∈ schema.classes, Layout.Header.ofClass c = layout := List.mem_map

/-! ## Numbers -/

theorem nodup_header_classIds (schema : Schema) :
    (schema.headerLayouts.map (·.classId)).Nodup := by
  rw [headerLayouts, List.map_map]
  exact schema.wellFormed.classIds

/-- The class of a method has a header. -/
theorem classId_mem_of_mem {layout : Layout.Method} (h : layout ∈ schema.methodLayouts) :
    layout.classId ∈ schema.headerLayouts.map (·.classId) := by
  obtain ⟨c, hc, m, _, rfl⟩ := mem_methodLayouts.1 h
  rw [headerLayouts, List.map_map]
  exact List.mem_map.2 ⟨c, hc, rfl⟩

/-- **No two methods share both numbers.** -/
theorem nodup_method_numbers (schema : Schema) :
    (schema.methodLayouts.map fun m => (m.classId, m.methodId)).Nodup := by
  rw [methodLayouts, List.map_flatMap, List.nodup_flatMap]
  refine ⟨fun c hc => ?_, ?_⟩
  · rw [List.map_map]
    refine List.Nodup.of_map Prod.snd ?_
    rw [List.map_map]
    exact (schema.wellFormed.numbers c hc).methodIds
  · refine (List.pairwise_map.1 schema.wellFormed.classIds).imp fun {c c'} hne => ?_
    intro numbers hmem hmem'
    simp only [List.map_map, List.mem_map] at hmem hmem'
    obtain ⟨m, _, rfl⟩ := hmem
    obtain ⟨m', _, heq⟩ := hmem'
    exact hne (congrArg Prod.fst heq).symm

/-- **No two methods of a class share a number.** -/
theorem nodup_methodIds_of_class (schema : Schema) (classId : UInt16) :
    ((schema.methodLayouts.filter (·.classId == classId)).map (·.methodId)).Nodup := by
  refine List.Nodup.of_map (Prod.mk classId) ?_
  have hnumbers : ((schema.methodLayouts.filter (·.classId == classId)).map (·.methodId)).map
      (Prod.mk classId) = (schema.methodLayouts.filter (·.classId == classId)).map
        fun m => (m.classId, m.methodId) := by
    rw [List.map_map]
    exact List.map_congr_left fun m hm => by rw [eq_of_beq (List.mem_filter.1 hm).2]; rfl
  rw [hnumbers]
  exact schema.nodup_method_numbers.sublist (List.filter_sublist.map _)

/-! ## Names -/

theorem map_methodLayouts {β : Type} (f : Layout.Method → β) : schema.methodLayouts.map f
    = schema.classes.flatMap fun c => c.methods.map fun m => f (.settled schema.toModel c m) := by
  simp only [methodLayouts, List.map_flatMap, List.map_map, Function.comp_def]

theorem map_headerLayouts {β : Type} (f : Layout.Header → β) :
    schema.headerLayouts.map f = schema.classes.map fun c => f (.ofClass c) := List.map_map

/-- **No two functions share a stem**, and none has that of a dispatcher. -/
theorem nodup_stems (schema : Schema) :
    (ownStems ++ (schema.headerLayouts.map (·.stem) ++
      schema.methodLayouts.map (·.stem))).Nodup := by
  rw [map_headerLayouts, map_methodLayouts]
  have hperm := List.map_append_flatMap_perm schema.classes
    (fun c => Identifier.headerStem c.name)
    fun c => c.methods.map fun m => Identifier.methodStem c.name m.name
  exact (hperm.append_left ownStems).nodup_iff.2 schema.wellFormed.stems

/-- A method is displayed under its compound name, whose small-letter spelling is its stem. -/
theorem fragment_displayName {layout : Layout.Method} (h : layout ∈ schema.methodLayouts) :
    Identifier.fragment layout.displayName = layout.stem := by
  obtain ⟨c, hc, m, hm, rfl⟩ := mem_methodLayouts.1 h
  refine Identifier.fragment_compound (schema.wellFormed.names c.name ?_)
    (schema.wellFormed.names m.name ?_)
  · exact List.mem_append_left _ (List.mem_flatMap.2 ⟨c, hc, List.mem_cons_self⟩)
  · refine List.mem_append_left _ (List.mem_flatMap.2 ⟨c, hc, List.mem_append_right _ ?_⟩)
    exact List.mem_flatMap.2 ⟨m, hm, List.mem_cons_self⟩

/-- **No two methods are displayed alike.** -/
theorem nodup_displayNames (schema : Schema) :
    (schema.methodLayouts.map (·.displayName)).Nodup := by
  refine List.Nodup.of_map Identifier.fragment ?_
  rw [List.map_map]
  have hstems : schema.methodLayouts.map (Identifier.fragment ∘ (·.displayName))
      = schema.methodLayouts.map (·.stem) :=
    List.map_congr_left fun _ h => fragment_displayName h
  rw [hstems]
  exact schema.nodup_stems.of_append_right.of_append_right

/-- Two results of each member, pair by pair or one sort after the other. -/
theorem flatMap_pair_perm {α β : Type} (f g : α → β) (as : List α) :
    (as.flatMap fun a => [f a, g a]).Perm (as.map f ++ as.map g) := by
  rw [List.map_eq_flatMap (f := g)]
  exact (List.map_append_flatMap_perm as f fun a => [g a]).symm

/-- **No two records share a name**, and none has that of a type of the module's own. -/
theorem nodup_types (schema : Schema) :
    (ownTypes ++ (schema.headerLayouts.map (·.classTypeName ++ "Properties") ++
      (schema.headerLayouts.map (·.classTypeName ++ "Header") ++
        (schema.methodLayouts.map (·.typeName ++ "Args") ++
          schema.methodLayouts.map (·.typeName))))).Nodup := by
  rw [map_headerLayouts, map_headerLayouts, map_methodLayouts, map_methodLayouts]
  have hmethod : ∀ c : Class, ((c.methods.map fun m =>
      Identifier.methodTypeName c.name m.name ++ "Args") ++
        c.methods.map fun m => Identifier.methodTypeName c.name m.name).Perm
      (c.methods.flatMap c.typesOf) := fun c => (flatMap_pair_perm _ _ c.methods).symm
  have hmethods := (List.flatMap_append_perm schema.classes _ _).trans
    (List.Perm.flatMap_left schema.classes fun c _ => hmethod c)
  have hheaders := (hmethods.append_left (schema.classes.map fun c =>
    Identifier.typeName c.name ++ "Header")).trans (List.map_append_flatMap_perm ..)
  have hall := (hheaders.append_left (schema.classes.map fun c =>
    Identifier.typeName c.name ++ "Properties")).trans (List.map_append_flatMap_perm ..)
  exact (hall.append_left ownTypes).nodup_iff.2 schema.wellFormed.types

/-- No two methods have one type. -/
theorem nodup_method_types (schema : Schema) :
    (schema.methodLayouts.map (·.typeName)).Nodup :=
  schema.nodup_types.of_append_right.of_append_right.of_append_right.of_append_right

theorem nodup_header_types (schema : Schema) :
    (schema.headerLayouts.map (·.classTypeName)).Nodup := by
  refine List.Nodup.of_map (· ++ "Header") ?_
  rw [List.map_map]
  exact schema.nodup_types.of_append_right.of_append_right.of_append_left

/-! ## Fields -/

/-- Fields that are told apart are so by their keys. -/
theorem FieldNamesDistinct.nodup_keys {fields : List Layout.Field}
    (h : FieldNamesDistinct (fields.map (·.name))) : (fields.map (·.key)).Nodup := by
  have hkeys := h.keys
  simp only [List.map_map, Function.comp_def] at hkeys
  exact hkeys

/-- **The fields of a method are told apart** by their identifiers and by their keys. -/
theorem methodFields_distinct {layout : Layout.Method} (h : layout ∈ schema.methodLayouts) :
    FieldNamesDistinct (layout.fields.map (·.name)) := by
  obtain ⟨c, hc, m, hm, rfl⟩ := mem_methodLayouts.1 h
  rw [Layout.Method.settled, List.map_map]
  exact (schema.wellFormed.fields c hc).arguments m hm

theorem headerFields_distinct {layout : Layout.Header} (h : layout ∈ schema.headerLayouts) :
    FieldNamesDistinct (layout.fields.map (·.name)) := by
  obtain ⟨c, hc, rfl⟩ := mem_headerLayouts.1 h
  rw [Layout.Header.ofClass, List.map_map]
  exact (schema.wellFormed.fields c hc).properties

end Schema

end FrameSchema
