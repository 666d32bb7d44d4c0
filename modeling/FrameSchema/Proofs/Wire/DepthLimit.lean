import FrameSchema.Proofs.Wire.FieldListCut

/-!
# Proofs/Wire/DepthLimit — how deep tables may lie inside one another

The writer nests tables as it finds them; only the reader counts.  `Fails read octets cause` says
that `read` stops on these octets with that cause, whatever stands around them, and is closed under
sequencing as `Reads` is.  A field list is read up to its first table that is too deep, and there
the reader refuses it (`fails_writeFields`).  So the depth of the tables alone decides whether a
field list is read back.
-/

namespace FrameSchema.Wire

/-- The cursor of an input behind its first `position` octets. -/
def Reader.seek (input : Octets) (position : Nat) : Reader := ⟨position, input.drop position⟩

variable {α β : Type}

/-- The operation fails with this cause on an input that goes on with these octets. -/
def Fails (read : Read α) (octets : Octets) (cause : Error) : Prop :=
  ∀ (position : Nat) (rest : Octets), ∃ r, read ⟨position, octets ++ rest⟩ = .error cause r

namespace Fails

variable {x : Read α} {f : α → Read β} {s t : Octets} {cause : Error}

theorem throw (octets : Octets) (cause : Error) : Fails (throw cause : Read α) octets cause :=
  fun _ _ => ⟨_, rfl⟩

/-- A sequence fails where its first step does. -/
theorem bind (hx : Fails x s cause) : Fails (x >>= f) (s ++ t) cause := by
  intro position rest
  obtain ⟨r, hr⟩ := hx position (t ++ rest)
  exact ⟨r, by grind⟩

/-- A step that comes after a failure does not mend it. -/
theorem map (hx : Fails x s cause) : Fails (x >>= f) s cause := by
  simpa using hx.bind (f := f) (t := [])

/-- A sequence fails where the next step does, behind what the first one read. -/
theorem after {a : α} (hx : Reads x s a) (hf : Fails (f a) t cause) :
    Fails (x >>= f) (s ++ t) cause := by
  intro position rest
  obtain ⟨r, hr⟩ := hf (position + s.length) rest
  have hread := hx position (t ++ rest)
  exact ⟨r, by grind⟩

end Fails

/-! ## Values that are too deep -/

/-- **A table is refused** for what its entries are refused for. -/
theorem fails_readTable {nested : Primitive → Read Value} {body : Octets} {cause : Error}
    (hlength : body.length < UInt32.size) (hentries : ∀ (position : Nat) (rest : Octets), ∃ r,
      readEntries nested (position + body.length) body.length .empty ⟨position, body ++ rest⟩
        = .error cause r) :
    Fails (readTable nested) (Octets.bigEndian 4 body.length ++ body) cause := by
  refine .after (reads_readNat hlength) fun position rest => ?_
  obtain ⟨r, hr⟩ := hentries position rest
  have hcheck := checkLength_append position body rest
  exact ⟨r, by grind⟩

mutual

/-- **A value with more table levels than may be opened is refused.**  Only a table has levels. -/
theorem Value.fails_encode : ∀ (value : Value) {levels : Nat} {octets : Octets},
    value.encode = .ok octets → levels < value.tableDepth →
      Fails (readValue levels value.primitive) octets (.tableTooDeep maxTableDepth)
  | .table _, 0, octets, _, _ => .throw octets _
  | .table entries, levels + 1, octets, h, hdepth => by
      rw [Value.encode, bind_eq_ok_iff] at h
      obtain ⟨body, hbody, h⟩ := h
      obtain ⟨hlength, rfl⟩ := encodeLong_eq_ok_iff.1 h
      rw [Value.tableDepth, Nat.add_lt_add_iff_right] at hdepth
      rw [Value.primitive, readValue]
      exact (fails_readTable hlength fun position rest =>
        entries.readEntries_eq_error hbody hdepth le_rfl).map

/-- Entries are read up to the first value with more table levels than may be opened. -/
theorem Entries.readEntries_eq_error : ∀ {floor : Option String} (entries : Entries floor)
    {levels budget position : Nat} {octets rest : Octets} {table : Table},
    entries.encode = .ok octets → levels < entries.tableDepth → octets.length ≤ budget →
      ∃ r, readEntries (readValue levels) (position + octets.length) budget table
        ⟨position, octets ++ rest⟩ = .error (.tableTooDeep maxTableDepth) r
  | _, .cons key above value tail, levels, budget, position, octets, rest, table, h, hdepth,
      hbudget => by
      obtain ⟨k, v, r, hk, hv, hr, rfl⟩ := Entries.encode_cons_eq_ok_iff.1 h
      obtain ⟨position', budget', hbudget', -, hread⟩ :=
        readEntries_append hk value.primitive (readValue levels) table rest hbudget
      rw [Entries.tableDepth, lt_max_iff] at hdepth
      rw [hread]
      by_cases hvalue : levels < value.tableDepth
      · obtain ⟨r', hr'⟩ := value.fails_encode hv hvalue position' (r ++ rest)
        exact ⟨r', bind_of_error hr'⟩
      · have hread' := value.reads_encode hv (not_lt.1 hvalue) position' (r ++ rest)
        rw [bind_of_ok hread']
        exact tail.readEntries_eq_error hr (hdepth.resolve_left hvalue) hbudget'

end

/-! ## Field lists -/

/-- Where some table is too deep, there is a first one. -/
theorem exists_first_deep {values : List Value} (h : ∃ v ∈ values, maxTableDepth < v.tableDepth) :
    ∃ front v back, values = front ++ v :: back ∧ maxTableDepth < v.tableDepth ∧
      ∀ w ∈ front, w.tableDepth ≤ maxTableDepth := by
  have hfound : (values.find? fun v => maxTableDepth < v.tableDepth).isSome := by
    simpa [List.find?_isSome] using h
  obtain ⟨v, hv⟩ := Option.isSome_iff_exists.1 hfound
  obtain ⟨hdeep, front, back, rfl, hfront⟩ := List.find?_eq_some_iff_append.1 hv
  exact ⟨front, v, back, rfl, of_decide_eq_true hdeep, fun w hw => by simpa using hfront w hw⟩

/-- **A field list with a table that is too deep is refused**, for this and no other cause. -/
theorem fails_writeFields {values : List Value} {octets : Octets}
    (hdeep : ∃ v ∈ values, maxTableDepth < v.tableDepth)
    (h : writeFields values = .complete octets) :
    Fails (readFields (values.map Value.primitive)) octets (.tableTooDeep maxTableDepth) := by
  obtain ⟨front, value, back, rfl, hvalue, hfront⟩ := exists_first_deep hdeep
  have hbit : value.primitive ≠ .bit := fun hbit => by
    rw [Value.tableDepth_of_ne (hbit ▸ by decide)] at hvalue
    exact Nat.not_lt_zero _ hvalue
  rw [writeFields, writeFieldsAfter_append_cons hbit, Written.andThen_eq_complete_iff] at h
  obtain ⟨s, t, hs, ht, rfl⟩ := h
  obtain ⟨v, u, hv, -, rfl⟩ := (writeFieldsAfter_cons_eq_complete_iff hbit).1 ht
  rw [List.map_append, List.map_cons, readFields, readFieldsAfter_append_cons hbit]
  refine .after (reads_writeFields hfront hs) (.map ?_)
  rw [readFields, readFieldsAfter_cons hbit]
  exact .bind (value.fails_encode hv hvalue)

/-- **Field lists are read back exactly up to the depth limit.**  Wherever a written field list
stands in an input, reading it by the kinds of its fields gives the fields and stops behind it if
and only if no table has more than 64 levels; otherwise the reader says that a table is too deep. -/
theorem readFields_writeFields {values : List Value} {octets : Octets}
    (h : writeFields values = .complete octets) (front back : Octets) :
    (readFields (values.map Value.primitive) (.seek (front ++ octets ++ back) front.length)
        = .ok values (.seek (front ++ octets ++ back) (front.length + octets.length)) ↔
      ∀ v ∈ values, v.tableDepth ≤ 64) ∧
    (¬(∀ v ∈ values, v.tableDepth ≤ 64) → ∃ r,
      readFields (values.map Value.primitive) (.seek (front ++ octets ++ back) front.length)
        = .error (.tableTooDeep 64) r) := by
  have hstart : Reader.seek (front ++ octets ++ back) front.length
      = ⟨front.length, octets ++ back⟩ := by
    rw [Reader.seek, List.append_assoc, List.drop_left]
  have hstop : Reader.seek (front ++ octets ++ back) (front.length + octets.length)
      = ⟨front.length + octets.length, back⟩ := by
    rw [Reader.seek, ← List.length_append, List.drop_left]
  rw [hstart, hstop]
  have hdeep (hnot : ¬∀ v ∈ values, v.tableDepth ≤ 64) : ∃ r,
      readFields (values.map Value.primitive) ⟨front.length, octets ++ back⟩
        = .error (.tableTooDeep 64) r :=
    fails_writeFields (by simpa [maxTableDepth] using hnot) h front.length back
  refine ⟨⟨fun hok => ?_, fun hdepth => reads_writeFields hdepth h front.length back⟩, hdeep⟩
  by_contra hnot
  obtain ⟨r, hr⟩ := hdeep hnot
  rw [hr] at hok
  cases hok

/-- A table in a table, and so on inwards; the innermost is empty. -/
def nestedTable : (levels : Nat) → Value
  | 0 => .table .nil
  | levels + 1 => .table (.cons "t" (.all _) (nestedTable levels) .nil)

@[simp] theorem primitive_nestedTable (levels : Nat) : (nestedTable levels).primitive = .table := by
  cases levels with
  | zero => rfl
  | succ levels => rfl

/-- Behind two bits, 64 levels are read back and 65 are not, though both are written. -/
theorem readFields_nestedTable :
    (∃ octets, writeFields [.bit true, .bit false, nestedTable 63] = .complete octets ∧
      readFields [.bit, .bit, .table] (.seek ([1, 2] ++ octets ++ [3]) 2)
        = .ok [.bit true, .bit false, nestedTable 63]
            (.seek ([1, 2] ++ octets ++ [3]) (2 + octets.length))) ∧
    ∃ octets, writeFields [.bit true, .bit false, nestedTable 64] = .complete octets ∧
      ∃ r, readFields [.bit, .bit, .table] (.seek ([1, 2] ++ octets ++ [3]) 2)
        = .error (.tableTooDeep 64) r := by
  have hkinds (levels : Nat) : [.bit true, .bit false, nestedTable levels].map Value.primitive
      = [.bit, .bit, .table] := by
    rw [List.map_cons, List.map_cons, List.map_singleton, primitive_nestedTable]
    rfl
  have hwrites (levels : Nat)
      (h : (writeFields [.bit true, .bit false, nestedTable levels]).fault = none) :
      ∃ octets, writeFields [.bit true, .bit false, nestedTable levels] = .complete octets :=
    ⟨_, congrArg (Written.mk _) h⟩
  constructor
  · obtain ⟨octets, h⟩ := hwrites 63 (by decide +kernel)
    have hread := (readFields_writeFields h [1, 2] [3]).1.2 (by decide +kernel)
    rw [hkinds] at hread
    exact ⟨octets, h, hread⟩
  · obtain ⟨octets, h⟩ := hwrites 64 (by decide +kernel)
    have hread := (readFields_writeFields h [1, 2] [3]).2 (by decide +kernel)
    rw [hkinds] at hread
    exact ⟨octets, h, hread⟩

end FrameSchema.Wire
