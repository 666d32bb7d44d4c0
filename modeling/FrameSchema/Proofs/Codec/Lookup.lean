import FrameSchema.Codec
import FrameSchema.Proofs.Layout

/-!
# Proofs/Codec/Lookup — the codec of a schema finds what it should

Every schema has a codec (`Codec.ofSchema_eq`), which finds each method by its numbers and by its
display name and each header by its class.  Fields of one frame have distinct keys, so a value that
was read for a field is what the message answers for the key of that field (`Codec.get?_keyed`).
-/

namespace FrameSchema

/-- The codec of a schema. -/
def Schema.codec (schema : Schema) : Codec := ⟨schema.methodLayouts, schema.headerLayouts⟩

namespace Codec

section Schema

variable (schema : Schema)

/-- **Every schema has a codec**, its layouts being those of its methods and headers. -/
@[simp] theorem ofSchema_eq : ofSchema schema = .ok schema.codec := by
  rw [ofSchema, schema.layoutMethods_eq]
  rfl

variable {schema}

/-- A method is found by its numbers. -/
theorem method?_of_mem {m : Layout.Method} (h : m ∈ schema.methodLayouts) :
    schema.codec.method? m.classId m.methodId = some m :=
  find?_of_nodup_map (f := fun m : Layout.Method => (m.classId, m.methodId))
    schema.nodup_method_numbers h

theorem method_of_mem {m : Layout.Method} (h : m ∈ schema.methodLayouts) :
    schema.codec.method m.classId m.methodId = .ok m := by
  rw [method, method?_of_mem h]

/-- A method is found by its name. -/
theorem methodByName?_of_mem {m : Layout.Method} (h : m ∈ schema.methodLayouts) :
    schema.codec.methodByName? m.displayName = some m :=
  find?_of_nodup_map schema.nodup_displayNames h

theorem header?_of_mem {h : Layout.Header} (hmem : h ∈ schema.headerLayouts) :
    schema.codec.header? h.classId = some h :=
  find?_of_nodup_map schema.nodup_header_classIds hmem

theorem header_of_mem {h : Layout.Header} (hmem : h ∈ schema.headerLayouts) :
    schema.codec.header h.classId = .ok h := by
  rw [header, header?_of_mem hmem]

/-- **Numbers that lead to a layout stand in it.** -/
theorem mem_of_method? {classId methodId : UInt16} {m : Layout.Method}
    (h : schema.codec.method? classId methodId = some m) :
    m ∈ schema.methodLayouts ∧ m.classId = classId ∧ m.methodId = methodId := by
  have hnumbers := List.find?_some
    (p := fun m : Layout.Method => m.classId == classId && m.methodId == methodId) h
  obtain ⟨hclass, hmethod⟩ := Bool.and_eq_true_iff.1 hnumbers
  exact ⟨List.mem_of_find?_eq_some h, eq_of_beq hclass, eq_of_beq hmethod⟩

theorem mem_of_header? {classId : UInt16} {h : Layout.Header}
    (hfound : schema.codec.header? classId = some h) :
    h ∈ schema.headerLayouts ∧ h.classId = classId := by
  have hclass := List.find?_some (p := fun h : Layout.Header => h.classId == classId) hfound
  exact ⟨List.mem_of_find?_eq_some hfound, eq_of_beq hclass⟩

/-- What is found by two numbers is a method that has both. -/
theorem mem_of_method {classId methodId : UInt16} {m : Layout.Method}
    (h : schema.codec.method classId methodId = .ok m) :
    m ∈ schema.methodLayouts ∧ m.classId = classId ∧ m.methodId = methodId := by
  rw [method] at h
  split at h
  case h_1 found hfound =>
    obtain rfl := Except.ok.inj h
    exact mem_of_method? hfound
  case h_2 => split at h <;> cases h

theorem mem_of_header {classId : UInt16} {h : Layout.Header}
    (hfound : schema.codec.header classId = .ok h) :
    h ∈ schema.headerLayouts ∧ h.classId = classId := by
  rw [header] at hfound
  split at hfound
  case h_1 found hsome =>
    obtain rfl := Except.ok.inj hfound
    exact mem_of_header? hsome
  case h_2 => cases hfound

/-- A class without a header has no methods. -/
theorem method?_of_header?_eq_none {classId : UInt16} (h : schema.codec.header? classId = none)
    (methodId : UInt16) : schema.codec.method? classId methodId = none := by
  cases hfound : schema.codec.method? classId methodId with
  | none => rfl
  | some m =>
    obtain ⟨hm, rfl, -⟩ := mem_of_method? hfound
    obtain ⟨header, hmem, hid⟩ := List.mem_map.1 (Schema.classId_mem_of_mem hm)
    rw [← hid, header?_of_mem hmem] at h
    cases h

/-- A method is encoded by name through its own layout. -/
theorem encodeMethod_of_mem {m : Layout.Method} (h : m ∈ schema.methodLayouts) (args : Arguments) :
    schema.codec.encodeMethod m.displayName args = encodeLayout m args := by
  rw [encodeMethod, methodByName?_of_mem h]

theorem encodeMethodById_of_mem {m : Layout.Method} (h : m ∈ schema.methodLayouts)
    (args : Arguments) :
    schema.codec.encodeMethodById m.classId m.methodId args = encodeLayout m args := by
  rw [encodeMethodById, method_of_mem h]
  rfl

end Schema

/-! ## Values by keys -/

section Keyed

variable {fields : List Layout.Field} {f : Layout.Field}

theorem map_fst_zip_keys {α : Type} {values : List α} (hlength : fields.length = values.length) :
    ((fields.map (·.key)).zip values).map Prod.fst = fields.map (·.key) :=
  List.map_fst_zip (by rw [List.length_map]; exact Nat.le_of_eq hlength)

theorem mem_zip_keys {α : Type} {values : List α} {v : α} (h : (f, v) ∈ fields.zip values) :
    (f.key, v) ∈ (fields.map (·.key)).zip values := by
  rw [List.zip_map_left]
  exact List.mem_map_of_mem h

/-- **A message answers with what was read for the field.** -/
theorem get?_keyed {values : List Wire.Value} {v : Wire.Value}
    (hkeys : (fields.map (·.key)).Nodup) (hlength : fields.length = values.length)
    (h : (f, v) ∈ fields.zip values) : (keyed fields values).get? f.key = some v := by
  rw [keyed, Wire.Table.get?_ofList_eq_some_iff (by rwa [map_fst_zip_keys hlength])]
  exact mem_zip_keys h

/-- **A message has one entry for each field** and no other. -/
theorem keys_keyed {values : List Wire.Value} (hkeys : (fields.map (·.key)).Nodup)
    (hlength : fields.length = values.length) :
    (keyed fields values).keys.Perm (fields.map (·.key)) := by
  refine (List.perm_ext_iff_of_nodup (Wire.Entries.nodup_keys _) hkeys).2 fun k => ?_
  rw [Wire.Entries.mem_keys_iff, Option.isSome_iff_ne_none, Ne, keyed,
    Wire.Table.get?_ofList_eq_none_iff, map_fst_zip_keys hlength, not_not]

/-- The pairs that a header is built from. -/
theorem mem_filterMap_present {k : String} {v : Wire.Value}
    {pairs : List (String × Option Wire.Value)} :
    (k, v) ∈ pairs.filterMap (fun (key, value) => value.map (key, ·)) ↔ (k, some v) ∈ pairs := by
  rw [List.mem_filterMap]
  constructor
  · rintro ⟨⟨j, o⟩, hpair, ho⟩
    obtain ⟨w, rfl, hw⟩ := Option.map_eq_some_iff.1 ho
    obtain ⟨rfl, rfl⟩ := Prod.mk.inj hw
    exact hpair
  · exact fun h => ⟨_, h, rfl⟩

/-- A header answers for no key but those of its fields. -/
theorem get?_keyedPresent_of_not_mem {values : List (Option Wire.Value)} {k : String}
    (hk : k ∉ fields.map (·.key)) : (keyedPresent fields values).get? k = none := by
  rw [keyedPresent, Wire.Table.get?_ofList_eq_none_iff]
  intro hmem
  obtain ⟨⟨j, v⟩, hpair, rfl⟩ := List.mem_map.1 hmem
  exact hk (List.of_mem_zip (mem_filterMap_present.1 hpair)).1

/-- **A header answers with what was read for the field**, which may be nothing. -/
theorem get?_keyedPresent {values : List (Option Wire.Value)} {o : Option Wire.Value}
    (hkeys : (fields.map (·.key)).Nodup) (hlength : fields.length = values.length)
    (h : (f, o) ∈ fields.zip values) : (keyedPresent fields values).get? f.key = o := by
  rw [← map_fst_zip_keys hlength] at hkeys
  have hpair := mem_zip_keys h
  cases o with
  | none =>
    rw [keyedPresent, Wire.Table.get?_ofList_eq_none_iff]
    intro hmem
    obtain ⟨⟨_, v⟩, hv, rfl⟩ := List.mem_map.1 hmem
    -- The key would stand in front of a value and of none.
    have heq := List.inj_on_of_nodup_map hkeys hpair (mem_filterMap_present.1 hv) rfl
    cases (Prod.mk.inj heq).2
  | some v =>
    have hnodup : ((((fields.map (·.key)).zip values).filterMap
        fun (key, value) => value.map (key, ·)).map Prod.fst).Nodup := by
      refine List.pairwise_map.2 ((List.pairwise_map.1 hkeys).filterMap _ ?_)
      rintro ⟨j, o⟩ ⟨j', o'⟩ hne b hb b' hb'
      obtain ⟨_, _, rfl⟩ := Option.map_eq_some_iff.1 hb
      obtain ⟨_, _, rfl⟩ := Option.map_eq_some_iff.1 hb'
      exact hne
    rw [keyedPresent, Wire.Table.get?_ofList_eq_some_iff hnodup, mem_filterMap_present]
    exact hpair

end Keyed

end Codec

end FrameSchema
