import FrameSchema.Bindings.Functions
import FrameSchema.Proofs.Layout

/-!
# Proofs/Bindings/Lookup — the functions and variants of a module are found by their names

Every schema has a module (`Module.ofSchema_eq`).  Its functions are named by a verb and a stem;
stems are distinct, and the dispatchers have the reserved ones, so every function is found by its
name (`Module.function?_of_mem`).  The variants of the two unions are told apart by type names.
-/

namespace FrameSchema

open Bindings

/-- The module of a schema. -/
def Schema.bindings (schema : Schema) (options : Options) : Module :=
  ⟨options.runtimePath, constantItems options schema.toModel ++
    typeItems options schema.methodLayouts schema.headerLayouts ++
    encoderItems schema.methodLayouts schema.headerLayouts ++
    decoderItems schema.methodLayouts schema.headerLayouts⟩

namespace Bindings

theorem encoderName_injective : Function.Injective encoderName := fun _ _ h =>
  (String.append_right_inj "encode_").1 h

theorem decoderName_injective : Function.Injective decoderName := fun _ _ h =>
  (String.append_right_inj "decode_").1 h

@[simp] theorem head?_encoderName (s : String) : (encoderName s).toList.head? = some 'e' := by
  rw [encoderName, String.toList_append]
  rfl

@[simp] theorem head?_decoderName (s : String) : (decoderName s).toList.head? = some 'd' := by
  rw [decoderName, String.toList_append]
  rfl

/-- No encoder has the name of a decoder. -/
theorem encoderName_ne_decoderName (s t : String) : encoderName s ≠ decoderName t := fun h =>
  absurd ((head?_encoderName s).symm.trans (h ▸ head?_decoderName t)) (by decide)

namespace Module

/-- **Every schema has bindings.** -/
@[simp] theorem ofSchema_eq (schema : Schema) (options : Options) :
    ofSchema schema options = .ok (schema.bindings options) := by
  rw [ofSchema, schema.layoutMethods_eq]
  rfl

/-! ## Declarations of one kind -/

variable {schema : Schema} {options : Options}

/-- The functions of a schema's module: encoders, decoders, and the two dispatchers. -/
def functionList (schema : Schema) : List Function :=
  schema.methodLayouts.map methodEncoder ++ schema.headerLayouts.map headerEncoder ++
    (schema.methodLayouts.map methodDecoder ++ schema.headerLayouts.map headerDecoder ++
      [methodDispatcher schema.methodLayouts schema.headerLayouts,
        headerDispatcher schema.headerLayouts])

/-- The functions of a module are its encoders, its decoders and two dispatchers. -/
theorem mem_functionList_iff {f : Function} : f ∈ functionList schema ↔
    (∃ m ∈ schema.methodLayouts, methodEncoder m = f) ∨
    (∃ h ∈ schema.headerLayouts, headerEncoder h = f) ∨
    (∃ m ∈ schema.methodLayouts, methodDecoder m = f) ∨
    (∃ h ∈ schema.headerLayouts, headerDecoder h = f) ∨
    f = methodDispatcher schema.methodLayouts schema.headerLayouts ∨
    f = headerDispatcher schema.headerLayouts := by
  simp only [functionList, List.mem_append, List.mem_map, List.mem_cons, List.not_mem_nil, or_false,
    or_assoc]

/-- The functions stand one behind the other, encoders first. -/
theorem encoderItems_append_decoderItems (schema : Schema) :
    encoderItems schema.methodLayouts schema.headerLayouts ++
      decoderItems schema.methodLayouts schema.headerLayouts
        = (functionList schema).map Item.function := by
  simp only [encoderItems, decoderItems, functionList, List.map_append, List.map_map]
  rfl

/-- **The items of a module**, from its constants to its functions, seen through a selection. -/
theorem filterMap_items {α : Type} (select : Item → Option α) :
    (schema.bindings options).items.filterMap select =
      (constantItems options schema.toModel).filterMap select ++
      (schema.headerLayouts.flatMap fun h => (headerItems options h).filterMap select) ++
      (schema.methodLayouts.flatMap fun m => (methodItems options m).filterMap select) ++
      [messages options schema.methodLayouts, headers options schema.headerLayouts].filterMap
        (select ∘ Item.union) ++
      (functionList schema).filterMap (select ∘ Item.function) := by
  rw [Schema.bindings, List.append_assoc, encoderItems_append_decoderItems, typeItems]
  simp only [List.filterMap_append, List.filterMap_flatMap, List.filterMap_map, List.append_assoc]
  rfl

/-- An item of a module is a constant, a type of a class or of a method, one of the two unions, or a
function. -/
theorem mem_items_iff {item : Item} : item ∈ (schema.bindings options).items ↔
    item ∈ constantItems options schema.toModel ∨
    (∃ h ∈ schema.headerLayouts, item ∈ headerItems options h) ∨
    (∃ m ∈ schema.methodLayouts, item ∈ methodItems options m) ∨
    item = .union (messages options schema.methodLayouts) ∨
    item = .union (headers options schema.headerLayouts) ∨
    ∃ f ∈ functionList schema, .function f = item := by
  rw [Schema.bindings, List.append_assoc, encoderItems_append_decoderItems, typeItems]
  simp only [List.mem_append, List.mem_flatMap, List.mem_map, List.mem_cons, List.not_mem_nil,
    or_false, or_assoc]

/-- The types of a class stand in the module. -/
theorem mem_items_of_header {item : Item} {h : Layout.Header} (hmem : h ∈ schema.headerLayouts)
    (hitem : item ∈ headerItems options h) : item ∈ (schema.bindings options).items :=
  mem_items_iff.2 (.inr (.inl ⟨h, hmem, hitem⟩))

/-- The types of a method, and the conversion between them, stand in the module. -/
theorem mem_items_of_method {item : Item} {m : Layout.Method} (hm : m ∈ schema.methodLayouts)
    (hitem : item ∈ methodItems options m) : item ∈ (schema.bindings options).items :=
  mem_items_iff.2 (.inr (.inr (.inl ⟨m, hm, hitem⟩)))

theorem mem_items_of_function {f : Function} (hf : f ∈ functionList schema) :
    .function f ∈ (schema.bindings options).items :=
  mem_items_iff.2 (.inr (.inr (.inr (.inr (.inr ⟨f, hf, rfl⟩)))))

theorem filterMap_constantItems {α : Type} {select : Item → Option α}
    (h : ∀ c, select (.constant c) = none) :
    (constantItems options schema.toModel).filterMap select = [] := by
  rw [constantItems]
  split
  · rw [List.filterMap_map, List.filterMap_eq_nil_iff]
    exact fun _ _ => h _
  · rfl

/-- What a selection passes over in each class or method, it passes over in all of them. -/
theorem flatMap_filterMap_eq_nil {α β : Type} {items : α → List Item} {select : Item → Option β}
    (h : ∀ a, (items a).filterMap select = []) (as : List α) :
    (as.flatMap fun a => (items a).filterMap select) = [] :=
  List.flatMap_eq_nil_iff.2 fun a _ => h a

theorem filterMap_functionItems {α : Type} {select : Item → Option α}
    (h : ∀ f, select (.function f) = none) (fs : List Function) :
    fs.filterMap (select ∘ Item.function) = [] :=
  List.filterMap_eq_nil_iff.2 fun f _ => h f

/-! ## Functions -/

/-- The functions of a module are those of the list. -/
@[simp] theorem functions_bindings (schema : Schema) (options : Options) :
    (schema.bindings options).functions = functionList schema := by
  rw [functions, filterMap_items, filterMap_constantItems fun _ => rfl,
    flatMap_filterMap_eq_nil fun _ => rfl, flatMap_filterMap_eq_nil fun _ => rfl]
  exact List.filterMap_some

/-- The functions are named by a verb and a stem. -/
theorem map_name_functionList (schema : Schema) : (functionList schema).map (·.name) =
    (schema.methodLayouts.map (·.stem) ++ schema.headerLayouts.map (·.stem)).map encoderName ++
    (schema.methodLayouts.map (·.stem) ++ schema.headerLayouts.map (·.stem) ++
      Schema.ownStems).map decoderName := by
  simp only [functionList, List.map_append, List.map_map]
  rfl

/-- **No two functions of a module share a name.** -/
theorem nodup_function_names (schema : Schema) (options : Options) :
    ((schema.bindings options).functions.map (·.name)).Nodup := by
  have hstems := schema.nodup_stems
  rw [functions_bindings, map_name_functionList, List.nodup_append']
  refine ⟨List.Nodup.map encoderName_injective ?_, List.Nodup.map decoderName_injective ?_, ?_⟩
  · exact hstems.of_append_right.perm List.perm_append_comm
  · exact hstems.perm (List.perm_append_comm.trans (List.perm_append_comm.append_right _))
  · intro name hencoder hdecoder
    obtain ⟨s, _, rfl⟩ := List.mem_map.1 hencoder
    obtain ⟨t, _, ht⟩ := List.mem_map.1 hdecoder
    exact encoderName_ne_decoderName s t ht.symm

/-- **A function of a module is found by its name.** -/
theorem function?_of_mem {f : Function} (h : f ∈ functionList schema) :
    (schema.bindings options).function? f.name = some f :=
  find?_of_nodup_map (nodup_function_names schema options) (by simpa using h)

section Found

variable {m : Layout.Method} {h : Layout.Header}

/-- The encoder of a method is found by its name. -/
theorem function?_methodEncoder (options : Options) (hm : m ∈ schema.methodLayouts) :
    (schema.bindings options).function? (encoderName m.stem) = some (methodEncoder m) :=
  function?_of_mem (mem_functionList_iff.2 (.inl ⟨m, hm, rfl⟩))

theorem function?_headerEncoder (options : Options) (hmem : h ∈ schema.headerLayouts) :
    (schema.bindings options).function? (encoderName h.stem) = some (headerEncoder h) :=
  function?_of_mem (mem_functionList_iff.2 (.inr (.inl ⟨h, hmem, rfl⟩)))

/-- The decoder of a method is found by its name. -/
theorem function?_methodDecoder (options : Options) (hm : m ∈ schema.methodLayouts) :
    (schema.bindings options).function? (decoderName m.stem) = some (methodDecoder m) :=
  function?_of_mem (mem_functionList_iff.2 (.inr (.inr (.inl ⟨m, hm, rfl⟩))))

theorem function?_headerDecoder (options : Options) (hmem : h ∈ schema.headerLayouts) :
    (schema.bindings options).function? (decoderName h.stem) = some (headerDecoder h) :=
  function?_of_mem (mem_functionList_iff.2 (.inr (.inr (.inr (.inl ⟨h, hmem, rfl⟩)))))

@[simp] theorem function?_methodDispatcher : (schema.bindings options).function? "decode_method"
    = some (methodDispatcher schema.methodLayouts schema.headerLayouts) :=
  function?_of_mem (mem_functionList_iff.2 (.inr (.inr (.inr (.inr (.inl rfl))))))

@[simp] theorem function?_headerDispatcher : (schema.bindings options).function? "decode_header"
    = some (headerDispatcher schema.headerLayouts) :=
  function?_of_mem (mem_functionList_iff.2 (.inr (.inr (.inr (.inr (.inr rfl))))))

end Found

/-! ## Unions -/

/-- **The unions of a module** are those of the two sorts of frame. -/
@[simp] theorem unions_bindings (schema : Schema) (options : Options) :
    (schema.bindings options).unions =
      [messages options schema.methodLayouts, headers options schema.headerLayouts] := by
  rw [unions, filterMap_items, filterMap_constantItems fun _ => rfl,
    flatMap_filterMap_eq_nil fun _ => rfl, flatMap_filterMap_eq_nil fun _ => rfl,
    filterMap_functionItems fun _ => rfl, List.append_nil]
  rfl

/-- The union of messages is found by its name. -/
@[simp] theorem union?_messages : (schema.bindings options).union? messageUnion
    = some (messages options schema.methodLayouts) := by
  simp [union?, messages]

@[simp] theorem union?_headers : (schema.bindings options).union? headerUnion
    = some (headers options schema.headerLayouts) := by
  rw [union?, unions_bindings]
  rfl

/-- No two methods have one variant. -/
theorem nodup_messageVariants (schema : Schema) :
    ((schema.methodLayouts.map methodVariant).map (·.name)).Nodup := by
  simp only [List.map_map, Function.comp_def, methodVariant]
  exact schema.nodup_method_types

theorem nodup_headerVariants (schema : Schema) :
    ((schema.headerLayouts.map headerVariant).map (·.name)).Nodup := by
  simp only [List.map_map, Function.comp_def, headerVariant]
  exact schema.nodup_header_types

/-- A variant of the messages is the only one of its name. -/
theorem filter_messageVariants (options : Options) {m : Layout.Method}
    (h : m ∈ schema.methodLayouts) : (messages options schema.methodLayouts).variants.filter
      (·.name == (methodVariant m).name) = [methodVariant m] :=
  filter_of_nodup_map (nodup_messageVariants schema) (List.mem_map_of_mem h)

theorem filter_headerVariants (options : Options) {h : Layout.Header}
    (hmem : h ∈ schema.headerLayouts) : (headers options schema.headerLayouts).variants.filter
      (·.name == (headerVariant h).name) = [headerVariant h] :=
  filter_of_nodup_map (nodup_headerVariants schema) (List.mem_map_of_mem hmem)

/-- The union of that name has this variant, and no other of the variant's name. -/
def IsVariant (module : Module) (union : String) (v : Variant) : Prop :=
  ∃ u, module.union? union = some u ∧ u.variants.filter (·.name == v.name) = [v]

/-- **The variant of a method is the only one of its name.** -/
theorem isVariant_methodVariant (options : Options) {m : Layout.Method}
    (h : m ∈ schema.methodLayouts) :
    (schema.bindings options).IsVariant messageUnion (methodVariant m) :=
  ⟨_, union?_messages, filter_messageVariants options h⟩

/-- **The variant of a header is the only one of its name.** -/
theorem isVariant_headerVariant (options : Options) {h : Layout.Header}
    (hmem : h ∈ schema.headerLayouts) :
    (schema.bindings options).IsVariant headerUnion (headerVariant h) :=
  ⟨_, union?_headers, filter_headerVariants options hmem⟩

end Module

end Bindings

end FrameSchema
