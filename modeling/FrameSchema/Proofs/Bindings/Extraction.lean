import FrameSchema.Proofs.Bindings.Decoders

/-!
# Proofs/Bindings/Extraction — decoders ask for what was read

A decoder reads one value for each field and then takes each at the type of its field.  Since what
is read is of the kinds of the fields, the second step has no faults, and whatever stops a decoder
is a fault of the octets (`StoppedByInput`).  With the runs of takes that end otherwise, at other
types or behind the last value, this is told in one statement (`extraction_exact`).
-/

namespace FrameSchema.Bindings

open Wire (Fields TakenInOrder takeEach ownTargets)

/-- Nothing stops the computation but a fault of the octets that it reads. -/
def StoppedByInput {α : Type} (run : Run α) : Prop :=
  ∀ r halt r', run r = .error halt r' → ∃ cause, halt = .wire cause ∧ ¬cause.IsExtraction

/-- What goes beside a reading operation is stopped by that operation's faults alone. -/
theorem Simulates.stoppedByInput {α β : Type} {R : α → β → Prop} {read : Wire.Read α} {run : Run β}
    (h : Simulates R read run) (hread : Wire.BlamesInput read) : StoppedByInput run := by
  intro r halt r' hhalt
  rcases h r with ⟨a, b, r₁, -, hrun, -⟩ | ⟨cause, r₁, hcause, hrun⟩
  · rw [hrun] at hhalt
    cases hhalt
  · rw [hrun] at hhalt
    cases hhalt
    exact ⟨cause, rfl, hread r cause r' hcause⟩

theorem blamesInput_readHeaderFields (kinds : List Primitive) :
    Wire.BlamesInput (readHeaderFields kinds) := by
  have hweight : Wire.BlamesInput Wire.readShort := Wire.stepwise_blamesInput.parametric.readShort
  have hsize : Wire.BlamesInput Wire.readLonglong :=
    Wire.stepwise_blamesInput.parametric.readLonglong
  exact hweight.bind fun _ => hsize.bind fun _ =>
    (Wire.blamesInput_readOptionalFields kinds).bind fun _ => .pure _

/-- **Values are taken exactly as they were read.**  A field list that was read has one value for
each kind, of that kind.  In any run of takes, at whatever targets, the k-th consumes the k-th value
and gives what that value is at the target, or a mismatch that names its kind; behind the last value
every take tells how many there were; and what was not reached is left in order.  So values taken at
the types of the kinds that were asked for are never refused.  All this holds of optional field
lists, where what is absent is absent at every target.  Hence the decoders of a layout are stopped
neither by a mismatch nor by a missing field. -/
theorem extraction_exact :
    (∀ kinds r values r', Wire.readFields kinds r = .ok values r' →
      values.map Wire.Value.primitive = kinds ∧
      (∀ targets, TakenInOrder Wire.Value.Extracts values targets
        (takeEach Fields.take targets (.ofList values))) ∧
      ∀ taken ∈ (takeEach Fields.take (ownTargets kinds) (.ofList values)).1,
        ∃ payload, taken.2 = .ok payload) ∧
    (∀ kinds r values r', Wire.readOptionalFields kinds r = .ok values r' →
      List.Forall₂ (fun kind value => ∀ v ∈ value, v.primitive = kind) kinds values ∧
      (∀ targets, TakenInOrder Wire.ExtractsOptional values targets
        (takeEach Fields.takeOptional targets (.ofList values))) ∧
      ∀ taken ∈ (takeEach Fields.takeOptional (ownTargets kinds) (.ofList values)).1,
        ∃ payload, taken.2 = .ok payload) ∧
    ∀ (fields : List Layout.Field) (type propertiesType : String),
      StoppedByInput (runMethodDecoder type (fields.map DecodeField.ofLayout)) ∧
      StoppedByInput (runHeaderDecoder type propertiesType (fields.map DecodeField.ofLayout)) := by
  refine ⟨fun kinds r values r' hread => ?_, fun kinds r values r' hread => ?_,
    fun fields type propertiesType => ⟨?_, ?_⟩⟩
  · have hkinds := Wire.gives_readFields kinds r values r' hread
    exact ⟨hkinds, fun targets => Wire.steps_take.takenInOrder
      (fun target value => value.extracts_as target) targets values, Wire.takeEach_own hkinds⟩
  · have hkinds := Wire.gives_readOptionalFields kinds r values r' hread
    exact ⟨hkinds, fun targets => Wire.steps_takeOptional.takenInOrder Wire.extractsOptional_as
      targets values, Wire.takeEach_ownOptional hkinds⟩
  · exact (simulates_runMethodDecoder type fields).stoppedByInput (Wire.blamesInput_readFields _)
  · exact (simulates_runHeaderDecoder type propertiesType fields).stoppedByInput
      (blamesInput_readHeaderFields _)

/-- A number is asked for as a text, a text as whatever it is, and then there is nothing left. -/
theorem extraction_past_mismatch :
    Wire.readFields [.short, .shortstr] (.ofOctets [0, 5, 1, 97])
      = .ok [.short 5, .shortstr "a"] ⟨4, []⟩ ∧
    takeEach Fields.take [.stored .text, .any, .stored .bool] (.ofList [.short 5, .shortstr "a"])
      = ([⟨.stored .text, .error (.typeMismatch .text .short)⟩, ⟨.any, .ok (.shortstr "a")⟩,
          ⟨.stored .bool, .error (.missingField 2)⟩], ⟨[], 2⟩) ∧
    TakenInOrder Wire.Value.Extracts [.short 5, .shortstr "a"] [.stored .text, .any, .stored .bool]
      (takeEach Fields.take [.stored .text, .any, .stored .bool]
        (.ofList [.short 5, .shortstr "a"])) := by
  have hread : Wire.readFields [.short, .shortstr] (.ofOctets [0, 5, 1, 97])
      = .ok [.short 5, .shortstr "a"] ⟨4, []⟩ := by decide +kernel
  obtain ⟨-, hruns, -⟩ := extraction_exact.1 _ _ _ _ hread
  exact ⟨hread, rfl, hruns _⟩

end FrameSchema.Bindings
