import FrameSchema.Proofs.Bindings.Execution
import FrameSchema.Proofs.Bindings.Lookup
import FrameSchema.Proofs.Codec.Lookup
import FrameSchema.Proofs.Wire.Extraction

/-!
# Proofs/Bindings/Decoders — generated decoders read what the codec reads

The codec and the dispatchers of a module go through a frame step by step, and at each step both
succeed with results that belong together or fail alike (`Simulates`).  The numbers in front of a
frame lead both to the same layout; values that were read for the fields are of their kinds, so
taking them never fails.
-/

namespace FrameSchema.Bindings

/-! ## Two computations side by side -/

section Simulation

variable {α β γ δ : Type} {R : α → β → Prop} {S : γ → δ → Prop}

/-- From every cursor both computations reach the same one, with results that belong together, or
with the same fault. -/
def Simulates (R : α → β → Prop) (read : Wire.Read α) (run : Run β) : Prop := ∀ r,
  (∃ a b r', read r = .ok a r' ∧ run r = .ok b r' ∧ R a b) ∨
    ∃ cause r', read r = .error cause r' ∧ run r = .error (.wire cause) r'

namespace Simulates

theorem pure {a : α} {b : β} (h : R a b) : Simulates R (Pure.pure a) (Pure.pure b) :=
  fun r => .inl ⟨a, b, r, rfl, rfl, h⟩

theorem throw (cause : Wire.Error) : Simulates R (throw cause) (throw (.wire cause)) :=
  fun r => .inr ⟨cause, r, rfl, rfl⟩

/-- Sequences go side by side if their steps do. -/
theorem bind {read : Wire.Read α} {run : Run β} {f : α → Wire.Read γ} {g : β → Run δ}
    (h : Simulates R read run) (hnext : ∀ a b, R a b → Simulates S (f a) (g b)) :
    Simulates S (read >>= f) (run >>= g) := by
  intro r
  rcases h r with ⟨a, b, r', hread, hrun, hab⟩ | ⟨cause, r', hread, hrun⟩
  · have hrest := hnext a b hab r'
    grind
  · exact .inr ⟨cause, r', by grind, by grind⟩

/-- A step of the field codec goes beside itself. -/
theorem reading {read : Wire.Read α} {P : α → Prop} (h : Wire.Gives read P) :
    Simulates (fun a b => a = b ∧ P a) read (reading read) := by
  intro r
  have hadapt : Bindings.reading read r = EStateM.adaptExcept Halt.wire read r := rfl
  cases hread : read r with
  | ok a r' =>
    refine .inl ⟨a, a, r', rfl, ?_, rfl, h r a r' hread⟩
    rw [hadapt, EStateM.adaptExcept, hread]
  | error cause r' =>
    refine .inr ⟨cause, r', rfl, ?_⟩
    rw [hadapt, EStateM.adaptExcept, hread]

/-- A step beside itself, whatever it gives. -/
theorem step {read : Wire.Read α} {f : α → Wire.Read γ} {g : α → Run δ}
    (hnext : ∀ a, Simulates S (f a) (g a)) :
    Simulates S (read >>= f) (Bindings.reading read >>= g) :=
  (reading (P := fun _ => True) fun _ _ _ _ => trivial).bind fun a _ hab => hab.1 ▸ hnext a

end Simulates

/-- Results agree if both are successes that belong together, or the same fault of the frame. -/
inductive Agree (R : α → β → Prop) : Except Codec.Error α → Except Halt β → Prop where
  | ok {a : α} {b : β} (h : R a b) : Agree R (.ok a) (.ok b)
  | error (cause : Wire.Error) : Agree R (.error (.wire cause)) (.error (.wire cause))

/-- **What goes side by side on every cursor agrees on every input.** -/
theorem Simulates.agree {read : Wire.Read α} {run : Run β} (h : Simulates R read run)
    (octets : Octets) : Agree R (Codec.runOn read octets) (run.on octets) := by
  rw [Codec.runOn, Run.on]
  rcases h (.ofOctets octets) with ⟨a, b, r', hread, hrun, hab⟩ | ⟨cause, r', hread, hrun⟩
  · rw [hread, hrun]
    exact .ok hab
  · rw [hread, hrun]
    exact .error cause

end Simulation

/-! ## Taking values -/

@[simp] theorem reading_ofExcept {α : Type} (a : α) :
    reading (MonadExcept.ofExcept (.ok a : Except Wire.Error α)) = pure a := rfl

/-- **Values of the kinds of the fields are taken**, each under the identifier of its field. -/
theorem takeFields_of_kinds : ∀ {fields : List Layout.Field} {values : List Wire.Value}
    (taken : Nat), List.Forall₂ (fun f v => f.primitive = v.primitive) fields values →
      takeFields (fields.map DecodeField.ofLayout) ⟨values, taken⟩
        = .ok ((fields.zip values).map fun (f, v) => (f.ident, .ofValue v))
  | [], _, _, .nil => rfl
  | ⟨name, kind, default⟩ :: fields, v :: values, taken, .cons hkind hkinds => by
      obtain rfl : kind = v.primitive := hkind
      have hrest := takeFields_of_kinds (taken + 1) hkinds
      rw [List.map_cons, takeFields, Wire.steps_take.next]
      simp only [DecodeField.ofLayout, Wire.as_stored] at hrest ⊢
      rw [hrest]
      rfl

/-- **Optional values of the kinds of the fields are taken**, and absent ones as absent. -/
theorem takeOptionalFields_of_kinds : ∀ {fields : List Layout.Field}
    {values : List (Option Wire.Value)} (taken : Nat),
    List.Forall₂ (fun f o => ∀ v ∈ o, v.primitive = f.primitive) fields values →
      takeOptionalFields (fields.map DecodeField.ofLayout) ⟨values, taken⟩
        = .ok ((fields.zip values).map fun (f, o) => (f.ident, o.map .ofValue))
  | [], _, _, .nil => rfl
  | f :: fields, none :: values, taken, .cons _ hkinds => by
      have hrest := takeOptionalFields_of_kinds (taken + 1) hkinds
      rw [List.map_cons, takeOptionalFields, Wire.steps_takeOptional.next]
      simp only [DecodeField.ofLayout, Wire.optionalAs] at hrest ⊢
      rw [hrest]
      rfl
  | ⟨name, kind, default⟩ :: fields, some v :: values, taken, .cons hkind hkinds => by
      obtain rfl : v.primitive = kind := hkind v rfl
      have hrest := takeOptionalFields_of_kinds (taken + 1) hkinds
      rw [List.map_cons, takeOptionalFields, Wire.steps_takeOptional.next]
      simp only [DecodeField.ofLayout, Wire.optionalAs, Wire.as_stored] at hrest ⊢
      rw [hrest]
      rfl

theorem map_primitive_ofLayout (fields : List Layout.Field) :
    (fields.map DecodeField.ofLayout).map (·.primitive) = fields.map (·.primitive) := by
  simp only [List.map_map, Function.comp_def, DecodeField.ofLayout]

/-- **A decoder of methods reads a field list**: it stores each value in the field of its place, and
has no faults of its own. -/
theorem simulates_runMethodDecoder (type : String) (fields : List Layout.Field) :
    Simulates (fun values value => values.map Wire.Value.primitive = fields.map (·.primitive) ∧
        value = ⟨type, (fields.zip values).map fun (f, v) => (f.ident, .ofValue v)⟩)
      (Wire.readFields (fields.map (·.primitive)))
      (runMethodDecoder type (fields.map DecodeField.ofLayout)) := by
  rw [← bind_pure (Wire.readFields _), runMethodDecoder, map_primitive_ofLayout]
  refine (Simulates.reading (Wire.gives_readFields _)).bind ?_
  rintro values _ ⟨rfl, hvalues⟩
  rw [Wire.Fields.ofList, takeFields_of_kinds 0 (forall₂_eq_iff.2 hvalues.symm), reading_ofExcept,
    pure_bind]
  exact .pure ⟨hvalues, rfl⟩

/-- What stands in a header frame behind the class number: a weight, the size of the body, and the
properties. -/
def readHeaderFields (kinds : List Primitive) :
    Wire.Read (UInt64 × List (Option Wire.Value)) := do
  let _weight ← Wire.readShort
  let bodySize ← Wire.readLonglong
  let values ← Wire.readOptionalFields kinds
  return (bodySize, values)

/-- **A decoder of headers reads an optional field list** behind two numbers, and has no faults of
its own. -/
theorem simulates_runHeaderDecoder (type propertiesType : String) (fields : List Layout.Field) :
    Simulates (fun read value => Wire.PresentOfKinds (fields.map (·.primitive)) read.2 ∧
        value = ⟨type, read.1, propertiesType,
          (fields.zip read.2).map fun (f, o) => (f.ident, o.map .ofValue)⟩)
      (readHeaderFields (fields.map (·.primitive)))
      (runHeaderDecoder type propertiesType (fields.map DecodeField.ofLayout)) := by
  rw [runHeaderDecoder, map_primitive_ofLayout]
  refine .step fun _weight => .step fun bodySize =>
    (Simulates.reading (Wire.gives_readOptionalFields _)).bind ?_
  rintro values _ ⟨rfl, hvalues⟩
  have hkinds := hvalues
  rw [Wire.PresentOfKinds, List.forall₂_map_left_iff] at hkinds
  rw [Wire.Fields.ofList, takeOptionalFields_of_kinds 0 hkinds, reading_ofExcept, pure_bind]
  exact .pure ⟨hvalues, rfl⟩

/-! ## Frames that belong together -/

/-- A message of the codec and a frame of generated code are the same method frame: the frame is in
the variant for the numbers and the name of the message, and field by field the record stores, under
the identifier, what the message has under the key. -/
structure MethodAgrees (schema : Schema) (module : Module) (message : Codec.Message)
    (frame : Frame MethodValue) : Prop where
  union : frame.union = "ReceivedMessage"
  variant : module.IsVariant frame.union ⟨frame.variant, frame.payload.type, message.classId,
    some message.methodId, message.name⟩
  fields : ∃ c ∈ schema.classes, ∃ m ∈ c.methods, ∃ layout,
    c.id = message.classId ∧ m.id = message.methodId ∧
      Layout.Method.ofMethod schema.toModel c m = .ok layout ∧
      message.values.keys.Perm (layout.fields.map (·.key)) ∧
      List.Forall₂ (fun f entry => entry.1 = f.ident ∧ ∃ v, message.values.get? f.key = some v ∧
        v.primitive = f.primitive ∧ entry.2 = .ofValue v) layout.fields frame.payload.fields

/-- A header of the codec and a frame of generated code are the same header frame; an absent
property is absent in both. -/
structure HeaderAgrees (schema : Schema) (module : Module) (header : Codec.Header)
    (frame : Frame HeaderValue) : Prop where
  union : frame.union = "ReceivedHeader"
  bodySize : frame.payload.bodySize = header.bodySize
  fields : ∃ c ∈ schema.classes, c.id = header.classId ∧
    module.IsVariant frame.union ⟨frame.variant, frame.payload.type, header.classId, none, c.name⟩ ∧
    (∀ key, (header.properties.get? key).isSome →
      key ∈ (Layout.Header.ofClass c).fields.map (·.key)) ∧
    List.Forall₂ (fun f entry => entry.1 = f.ident ∧
      (∀ v ∈ header.properties.get? f.key, v.primitive = f.primitive) ∧
      entry.2 = (header.properties.get? f.key).map .ofValue)
      (Layout.Header.ofClass c).fields frame.payload.properties

/-! ## Method frames -/

section Method

variable {schema : Schema} {options : Options}

/-- What was read for the fields of a method is the same to both. -/
theorem methodAgrees_of_kinds {m : Layout.Method} (hm : m ∈ schema.methodLayouts)
    {values : List Wire.Value}
    (hkinds : List.Forall₂ (fun f v => f.primitive = v.primitive) m.fields values) :
    MethodAgrees schema (schema.bindings options)
      ⟨m.classId, m.methodId, m.displayName, Codec.keyed m.fields values⟩
      ⟨messageUnion, m.typeName, ⟨valueName m,
        (m.fields.zip values).map fun (f, v) => (f.ident, .ofValue v)⟩⟩ where
  union := rfl
  variant := Module.isVariant_methodVariant options hm
  fields := by
    obtain ⟨c, hc, n, hn, rfl⟩ := Schema.mem_methodLayouts.1 hm
    have hkeys := (Schema.methodFields_distinct hm).nodup_keys
    have hlength := hkinds.length_eq
    refine ⟨c, hc, n, hn, _, rfl, rfl, Schema.ofMethod_eq hc hn, Codec.keys_keyed hkeys hlength,
      forall₂_map_zip hlength ?_⟩
    rintro ⟨f, v⟩ hpair
    dsimp only
    exact ⟨rfl, v, Codec.get?_keyed hkeys hlength hpair, (List.forall₂_zip hkinds hpair).symm, rfl⟩

/-- **The decoder of a method reads what the codec reads** behind the numbers of the frame. -/
theorem simulates_methodDecoder {m : Layout.Method} (hm : m ∈ schema.methodLayouts) :
    Simulates (MethodAgrees schema (schema.bindings options))
      (do
        let values ← Wire.readFields m.types
        return ⟨m.classId, m.methodId, m.displayName, Codec.keyed m.fields values⟩)
      (do
        let value ← (schema.bindings options).callMethodDecoder (decoderName m.stem)
        return ⟨messageUnion, m.typeName, value⟩) := by
  have hcall : (schema.bindings options).callMethodDecoder (decoderName m.stem)
      = runMethodDecoder (valueName m) (m.fields.map DecodeField.ofLayout) := by
    rw [Module.callMethodDecoder, Module.body?, Module.function?_methodDecoder options hm]
    rfl
  rw [hcall]
  refine (simulates_runMethodDecoder (valueName m) m.fields).bind ?_
  rintro values _ ⟨hvalues, rfl⟩
  have hkinds := forall₂_eq_iff.2 hvalues.symm
  exact .pure (methodAgrees_of_kinds hm hkinds)

/-- The routes for a class are found where the codec finds the class's header. -/
theorem find?_classRoutes (classId : UInt16) :
    (schema.headerLayouts.map fun h => classRoute schema.methodLayouts h.classId).find?
        (·.classId == classId)
      = (schema.codec.header? classId).map fun _ => classRoute schema.methodLayouts classId := by
  rw [List.find?_map]
  change (schema.codec.header? classId).map _ = _
  cases hfound : schema.codec.header? classId with
  | none => rfl
  | some h => rw [Option.map_some, Option.map_some, (Codec.mem_of_header? hfound).2]

/-- The route to a method is found among those for its class where the codec finds the method. -/
theorem find?_methodRoutes (classId methodId : UInt16) :
    (classRoute schema.methodLayouts classId).methods.find? (·.id == methodId)
      = (schema.codec.method? classId methodId).map methodRoute := by
  rw [classRoute, List.find?_map, List.find?_filter]
  simp only [Bool.decide_and, Bool.decide_eq_true]
  rfl

/-- **The dispatcher of method frames goes beside the codec.** -/
theorem simulates_methodDispatcher : Simulates (MethodAgrees schema (schema.bindings options))
    schema.codec.readMethod ((schema.bindings options).runMethodDispatcher messageUnion
      (schema.headerLayouts.map fun h => classRoute schema.methodLayouts h.classId)) := by
  refine .step fun classId => .step fun methodId => ?_
  rw [find?_classRoutes, Codec.method]
  cases hheader : schema.codec.header? classId with
  | none =>
    rw [Codec.method?_of_header?_eq_none hheader]
    exact .throw (.unknownClass classId)
  | some h =>
    rw [Option.map_some]
    dsimp only
    rw [find?_methodRoutes]
    cases hmethod : schema.codec.method? classId methodId with
    | none => exact .throw (.unknownMethod classId methodId)
    | some m =>
      obtain ⟨hm, rfl, rfl⟩ := Codec.mem_of_method? hmethod
      rw [Option.map_some, methodRoute]
      dsimp only
      exact simulates_methodDecoder hm

end Method

/-! ## Header frames -/

section Header

variable {schema : Schema} {options : Options}

/-- What was read for the properties of a class is the same to both. -/
theorem headerAgrees_of_kinds {h : Layout.Header} (hmem : h ∈ schema.headerLayouts)
    (bodySize : UInt64) {values : List (Option Wire.Value)}
    (hkinds : List.Forall₂ (fun f o => ∀ v ∈ o, v.primitive = f.primitive) h.fields values) :
    HeaderAgrees schema (schema.bindings options)
      ⟨h.classId, bodySize, Codec.keyedPresent h.fields values⟩
      ⟨headerUnion, h.classTypeName, ⟨headerName h, bodySize, propertiesName h,
        (h.fields.zip values).map fun (f, o) => (f.ident, o.map .ofValue)⟩⟩ where
  union := rfl
  bodySize := rfl
  fields := by
    have hkeys := (Schema.headerFields_distinct hmem).nodup_keys
    have hlength := hkinds.length_eq
    have hvariant := Module.isVariant_headerVariant options hmem
    rw [headerVariant] at hvariant
    obtain ⟨c, hc, rfl⟩ := Schema.mem_headerLayouts.1 hmem
    dsimp only
    refine ⟨c, hc, rfl, hvariant, fun key hkey => ?_, forall₂_map_zip hlength ?_⟩
    · by_contra hnot
      rw [Codec.get?_keyedPresent_of_not_mem hnot] at hkey
      cases hkey
    · rintro ⟨f, o⟩ hpair
      dsimp only
      rw [Codec.get?_keyedPresent hkeys hlength hpair]
      exact ⟨rfl, List.forall₂_zip hkinds hpair, rfl⟩

/-- **The decoder of a header reads what the codec reads** behind the class number of the frame. -/
theorem simulates_headerDecoder {h : Layout.Header} (hmem : h ∈ schema.headerLayouts) :
    Simulates (HeaderAgrees schema (schema.bindings options))
      (do
        let _weight ← Wire.readShort
        let bodySize ← Wire.readLonglong
        let values ← Wire.readOptionalFields h.types
        return ⟨h.classId, bodySize, Codec.keyedPresent h.fields values⟩)
      (do
        let value ← (schema.bindings options).callHeaderDecoder (decoderName h.stem)
        return ⟨headerUnion, h.classTypeName, value⟩) := by
  have hcall : (schema.bindings options).callHeaderDecoder (decoderName h.stem)
      = runHeaderDecoder (headerName h) (propertiesName h)
          (h.fields.map DecodeField.ofLayout) := by
    rw [Module.callHeaderDecoder, Module.body?, Module.function?_headerDecoder options hmem]
    rfl
  have hread : (do
        let _weight ← Wire.readShort
        let bodySize ← Wire.readLonglong
        let values ← Wire.readOptionalFields h.types
        return ⟨h.classId, bodySize, Codec.keyedPresent h.fields values⟩ : Wire.Read Codec.Header)
      = (do
        let (bodySize, values) ← readHeaderFields h.types
        return ⟨h.classId, bodySize, Codec.keyedPresent h.fields values⟩) := by
    simp only [readHeaderFields, bind_assoc, pure_bind]
  rw [hcall, hread]
  refine (simulates_runHeaderDecoder (headerName h) (propertiesName h) h.fields).bind ?_
  rintro ⟨bodySize, values⟩ _ ⟨hvalues, rfl⟩
  rw [Wire.PresentOfKinds, List.forall₂_map_left_iff] at hvalues
  exact .pure (headerAgrees_of_kinds hmem bodySize hvalues)

/-- **The dispatcher of header frames goes beside the codec.** -/
theorem simulates_headerDispatcher : Simulates (HeaderAgrees schema (schema.bindings options))
    schema.codec.readHeader ((schema.bindings options).runHeaderDispatcher headerUnion
      (schema.headerLayouts.map headerRoute)) := by
  refine .step fun classId => ?_
  have hroute : (schema.headerLayouts.map headerRoute).find? (·.id == classId)
      = (schema.codec.header? classId).map headerRoute := List.find?_map
  rw [hroute, Codec.header]
  cases hheader : schema.codec.header? classId with
  | none => exact .throw (.unknownClass classId)
  | some h =>
    obtain ⟨hmem, rfl⟩ := Codec.mem_of_header? hheader
    rw [Option.map_some, headerRoute]
    dsimp only
    exact simulates_headerDecoder hmem

end Header

/-! ## The module and the codec -/

/-- **Generated decoders agree with the codec.**  On all octets the dispatcher of method frames
succeeds exactly where the codec does, with the variant for the message's numbers and name and with
the same values field by field; otherwise both name the same fault.  So does the dispatcher of
header frames. -/
theorem decoders_agree (schema : Schema) (options : Options) :
    ∃ module codec, Module.ofSchema schema options = .ok module ∧
      Codec.ofSchema schema = .ok codec ∧ ∀ octets : Octets,
        Agree (MethodAgrees schema module) (codec.decodeMethod octets)
          (module.decodeMethod octets) ∧
        Agree (HeaderAgrees schema module) (codec.decodeHeader octets)
          (module.decodeHeader octets) := by
  refine ⟨_, _, Module.ofSchema_eq schema options, Codec.ofSchema_eq schema, fun octets => ⟨?_, ?_⟩⟩
  · rw [Module.decodeMethod, Module.body?, Module.function?_methodDispatcher]
    exact simulates_methodDispatcher.agree octets
  · rw [Module.decodeHeader, Module.body?, Module.function?_headerDispatcher]
    exact simulates_headerDispatcher.agree octets

end FrameSchema.Bindings
