import FrameSchema.Proofs.Codec.Lookup
import FrameSchema.Proofs.Schema.Acceptance
import FrameSchema.Proofs.Wire.Reading

/-!
# Proofs/Codec/Dispatch — no message is lost or confused in the tables

A method is found by its two numbers and by its display name, and each of the two leads to its
layout and to no other (`Codec.Dispatches`).  Display names are not checked: `a.b` with `c` is
displayed as `a` with `b.c` is.  But then the functions generated for the two would have one stem,
and stems are checked (`Schema.nodup_displayNames`).  Stems tell the classes apart as well, and the
methods of a class, so a name leads to one of them at most.
-/

namespace FrameSchema

/-! ## Classes and methods by name and number -/

namespace Schema

variable {schema : Schema}

/-- **No two classes share a name**: the functions for their headers would share a stem. -/
theorem nodup_classNames (schema : Schema) : (schema.classes.map (·.name)).Nodup := by
  have hstems := schema.nodup_stems.of_append_right.of_append_left
  rw [map_headerLayouts] at hstems
  refine List.Nodup.of_map Identifier.headerStem ?_
  rwa [List.map_map]

/-- **No two methods of a class share a name**: their functions would share a stem. -/
theorem nodup_methodNames {c : Class} (hc : c ∈ schema.classes) :
    (c.methods.map (·.name)).Nodup := by
  have hstems := schema.nodup_stems.of_append_right.of_append_right
  rw [map_methodLayouts, List.nodup_flatMap] at hstems
  refine List.Nodup.of_map (Identifier.methodStem c.name) ?_
  rw [List.map_map]
  exact hstems.1 c hc

theorem class?_eq_some_iff {name : String} {c : Class} :
    schema.class? name = some c ↔ c ∈ schema.classes ∧ c.name = name :=
  find?_eq_some_iff_of_nodup_map schema.nodup_classNames

theorem classById?_eq_some_iff {id : UInt16} {c : Class} :
    schema.classById? id = some c ↔ c ∈ schema.classes ∧ c.id = id :=
  find?_eq_some_iff_of_nodup_map schema.wellFormed.classIds

theorem method?_eq_some_iff {c : Class} (hc : c ∈ schema.classes) {name : String} {m : Method} :
    c.method? name = some m ↔ m ∈ c.methods ∧ m.name = name :=
  find?_eq_some_iff_of_nodup_map (nodup_methodNames hc)

theorem methodById?_eq_some_iff {c : Class} (hc : c ∈ schema.classes) {id : UInt16} {m : Method} :
    c.methodById? id = some m ↔ m ∈ c.methods ∧ m.id = id :=
  find?_eq_some_iff_of_nodup_map (schema.wellFormed.numbers c hc).methodIds

/-- **An answer is the name of one method of the class.** -/
theorem existsUnique_answer {c : Class} (hc : c ∈ schema.classes) {m : Method} (hm : m ∈ c.methods)
    {response : String} (h : response ∈ m.response) :
    ∃! answer, answer ∈ c.methods ∧ answer.name = response := by
  obtain ⟨answer, hanswer, hname⟩ :=
    Class.knowsResponse_iff.1 ((schema.wellFormed.numbers c hc).responses m hm) response h
  refine ⟨answer, ⟨hanswer, hname⟩, ?_⟩
  rintro other ⟨hother, rfl⟩
  exact List.inj_on_of_nodup_map (nodup_methodNames hc) hother hanswer hname.symm

/-- **Names and numbers lead into a schema**: each class is found by its name and by its number,
each method of it by its own, and nothing else is found. -/
structure Navigable (schema : Schema) : Prop where
  className : ∀ name c, schema.class? name = some c ↔ c ∈ schema.classes ∧ c.name = name
  classId : ∀ id c, schema.classById? id = some c ↔ c ∈ schema.classes ∧ c.id = id
  methodName : ∀ c ∈ schema.classes, ∀ name m,
    c.method? name = some m ↔ m ∈ c.methods ∧ m.name = name
  methodId : ∀ c ∈ schema.classes, ∀ id m,
    c.methodById? id = some m ↔ m ∈ c.methods ∧ m.id = id
  answer : ∀ c ∈ schema.classes, ∀ m ∈ c.methods, ∀ response ∈ m.response,
    ∃! answer, answer ∈ c.methods ∧ answer.name = response

/-- **Every lookup answers with the one member that has the name or number.** -/
theorem navigable (schema : Schema) : schema.Navigable where
  className _ _ := class?_eq_some_iff
  classId _ _ := classById?_eq_some_iff
  methodName _ hc _ _ := method?_eq_some_iff hc
  methodId _ hc _ _ := methodById?_eq_some_iff hc
  answer _ hc _ hm _ h := existsUnique_answer hc hm h

end Schema

/-! ## The tables of a codec -/

namespace Codec

/-- A frame with these numbers is neither written nor read, for this cause. -/
structure Rejects (codec : Codec) (classId methodId : UInt16) (cause : Wire.Error) : Prop where
  encode : ∀ args, codec.encodeMethodById classId methodId args = .error (.wire cause)
  decode : ∀ rest, codec.decodeMethod (Octets.bigEndian 2 classId.toNat ++
    (Octets.bigEndian 2 methodId.toNat ++ rest)) = .error (.wire cause)

/-- **The tables of a codec** lead to these layouts of the methods of the classes, by their numbers
and by their names, and to no others. -/
structure Dispatches (codec : Codec) (classes : List Schema.Class) (layouts : List Layout.Method) :
    Prop where
  /-- Each method of each class has a layout. -/
  complete : ∀ c ∈ classes, ∀ m ∈ c.methods, ∃ layout ∈ layouts, layout.classId = c.id ∧
    layout.methodId = m.id ∧ layout.displayName = c.name ++ "." ++ m.name
  /-- No layout takes the place of another in a table that goes by numbers. -/
  distinctNumbers : (layouts.map fun layout => (layout.classId, layout.methodId)).Nodup
  /-- Nor does one in a table that goes by names. -/
  distinctNames : (layouts.map (·.displayName)).Nodup
  numbers : ∀ classId methodId layout, codec.method? classId methodId = some layout ↔
    layout ∈ layouts ∧ layout.classId = classId ∧ layout.methodId = methodId
  names : ∀ name layout, codec.methodByName? name = some layout ↔
    layout ∈ layouts ∧ layout.displayName = name
  encode : ∀ layout ∈ layouts, ∀ args, codec.encodeMethod layout.displayName args
    = codec.encodeMethodById layout.classId layout.methodId args
  unknownMethod : ∀ c ∈ classes, ∀ methodId, (∀ m ∈ c.methods, m.id ≠ methodId) →
    codec.Rejects c.id methodId (.unknownMethod c.id methodId)
  unknownClass : ∀ classId, (∀ c ∈ classes, c.id ≠ classId) → ∀ methodId,
    codec.Rejects classId methodId (.unknownClass classId)

/-- Numbers that lead to no layout are neither written nor read. -/
theorem rejects_of_method {codec : Codec} {classId methodId : UInt16} {cause : Wire.Error}
    (h : codec.method classId methodId = .error cause) : codec.Rejects classId methodId cause where
  encode args := by
    rw [encodeMethodById, h]
    rfl
  decode rest := by
    have hread : codec.readMethod (.ofOctets (Octets.bigEndian 2 classId.toNat ++
        (Octets.bigEndian 2 methodId.toNat ++ rest))) = .error cause ⟨4, rest⟩ := by
      rw [readMethod, Wire.Reader.ofOctets, Wire.bind_of_ok (Wire.reads_readShort classId 0 _),
        Wire.bind_of_ok (Wire.reads_readShort methodId _ _), h]
      simp only [Octets.length_bigEndian]
      rfl
    rw [decodeMethod, runOn, hread]

section Schema

variable {schema : Schema}

theorem method?_eq_some_iff {classId methodId : UInt16} {layout : Layout.Method} :
    schema.codec.method? classId methodId = some layout ↔
      layout ∈ schema.methodLayouts ∧ layout.classId = classId ∧ layout.methodId = methodId := by
  constructor
  · exact mem_of_method?
  · rintro ⟨hlayout, rfl, rfl⟩
    exact method?_of_mem hlayout

/-- A name leads to the method of that name. -/
theorem methodByName?_eq_some_iff {name : String} {layout : Layout.Method} :
    schema.codec.methodByName? name = some layout ↔
      layout ∈ schema.methodLayouts ∧ layout.displayName = name :=
  find?_eq_some_iff_of_nodup_map schema.nodup_displayNames

/-- **A number that no method of its class has** is an unknown method, also where the class has no
methods at all. -/
theorem method_eq_unknownMethod {c : Schema.Class} (hc : c ∈ schema.classes) {methodId : UInt16}
    (h : ∀ m ∈ c.methods, m.id ≠ methodId) :
    schema.codec.method c.id methodId = .error (.unknownMethod c.id methodId) := by
  have hnone : schema.codec.method? c.id methodId = none := by
    rw [Option.eq_none_iff_forall_ne_some]
    intro layout hlayout
    obtain ⟨hmem, hclass, hmethod⟩ := method?_eq_some_iff.1 hlayout
    obtain ⟨c', hc', m, hm, rfl⟩ := Schema.mem_methodLayouts.1 hmem
    obtain rfl := List.inj_on_of_nodup_map schema.wellFormed.classIds hc' hc hclass
    exact h m hm hmethod
  have hheader := header?_of_mem (Schema.mem_headerLayouts.2 ⟨c, hc, rfl⟩)
  rw [method, hnone]
  exact if_pos (Option.isSome_of_eq_some hheader)

/-- A number that no class has is told from one that no method has. -/
theorem method_eq_unknownClass {classId : UInt16} (h : ∀ c ∈ schema.classes, c.id ≠ classId)
    (methodId : UInt16) :
    schema.codec.method classId methodId = .error (.unknownClass classId) := by
  have hheader : schema.codec.header? classId = none := by
    rw [Option.eq_none_iff_forall_ne_some]
    intro header hheader
    obtain ⟨hmem, hclass⟩ := mem_of_header? hheader
    obtain ⟨c, hc, rfl⟩ := Schema.mem_headerLayouts.1 hmem
    exact h c hc hclass
  rw [method, method?_of_header?_eq_none hheader, hheader]
  rfl

/-- **Methods are found by number and by name alike**, and nothing else is. -/
theorem dispatches (schema : Schema) :
    schema.codec.Dispatches schema.classes schema.methodLayouts where
  complete c hc m hm := ⟨_, Schema.mem_methodLayouts.2 ⟨c, hc, m, hm, rfl⟩, rfl, rfl, rfl⟩
  distinctNumbers := schema.nodup_method_numbers
  distinctNames := schema.nodup_displayNames
  numbers _ _ _ := method?_eq_some_iff
  names _ _ := methodByName?_eq_some_iff
  encode layout hlayout args := by
    rw [encodeMethod_of_mem hlayout, encodeMethodById_of_mem hlayout]
  unknownMethod _ hc _ h := rejects_of_method (method_eq_unknownMethod hc h)
  unknownClass _ h methodId := rejects_of_method (method_eq_unknownClass h methodId)

end Schema

end Codec

/-! ## Every schema -/

/-- **No message is lost or confused.**  Every schema has a codec, whose tables lead to the layouts
of all its methods, by their numbers and by their names, and to no others; and in the schema itself
each class and each method is found by its name and by its number, so an answer is one method. -/
theorem Schema.dispatch (schema : Schema) : schema.Navigable ∧
    ∃ codec layouts, Codec.ofSchema schema = .ok codec ∧
      Layout.methods schema.toModel = .ok layouts ∧ codec.Dispatches schema.classes layouts :=
  ⟨schema.navigable, schema.codec, schema.methodLayouts, Codec.ofSchema_eq schema,
    schema.layoutMethods_eq, Codec.dispatches schema⟩

namespace Schema

/-- A class `a` with a method `b.e`, whose display name starts as those of a class `a.b` do. -/
def classA : Class := ⟨2, "a", [⟨1, "b.e", [], false, none, false⟩], []⟩

/-- A request and its answer. -/
def classAB : Class :=
  ⟨1, "a.b", [⟨1, "c", [], true, some "d", false⟩, ⟨2, "d", [], false, none, false⟩], []⟩

/-- Two classes whose names are joined with those of their methods by a dot that might stand
elsewhere, and a class without methods. -/
def dotted : Schema where
  classes := [classAB, classA, ⟨3, "self", [], []⟩]
  domains := []
  constants := []
  checked := toOption_eq_some_iff.1 (by decide +kernel)

/-- The method `b.e` of the class `a` is `a.b.e` and none of the class `a.b`; the class without
methods is known, and a class 4 is not. -/
theorem dispatch_dotted : dotted.class? "a" = some classA ∧
    (∃! answer, answer ∈ classAB.methods ∧ answer.name = "d") ∧
    ∃ codec, Codec.ofSchema dotted = .ok codec ∧
      (∀ args, codec.encodeMethod "a.b.e" args = codec.encodeMethodById 2 1 args) ∧
      (∀ args, codec.encodeMethodById 3 1 args = .error (.wire (.unknownMethod 3 1))) ∧
      codec.decodeMethod [0, 4, 0, 1, 9] = .error (.wire (.unknownClass 4)) := by
  obtain ⟨hnavigable, codec, layouts, hcodec, -, htables⟩ := dispatch dotted
  have hAB : classAB ∈ dotted.classes := List.mem_cons_self
  have hA : classA ∈ dotted.classes := List.mem_cons_of_mem _ List.mem_cons_self
  obtain ⟨layout, hlayout, hclass, hmethod, hname⟩ :=
    htables.complete classA hA _ List.mem_cons_self
  have hencode := htables.encode layout hlayout
  rw [hclass, hmethod, hname] at hencode
  exact ⟨(hnavigable.className "a" classA).2 ⟨hA, rfl⟩,
    hnavigable.answer classAB hAB _ List.mem_cons_self "d" rfl, codec, hcodec, hencode,
    (htables.unknownMethod ⟨3, "self", [], []⟩ (by simp [dotted]) 1 (by simp)).encode,
    (htables.unknownClass 4 (by decide) 1).decode [9]⟩

end Schema

end FrameSchema
