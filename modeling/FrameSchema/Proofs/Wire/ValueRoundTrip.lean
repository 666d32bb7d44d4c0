import FrameSchema.Wire.Encoding
import FrameSchema.Proofs.Success
import FrameSchema.Proofs.Wire.Reading
import FrameSchema.Proofs.Wire.TableView

/-!
# Proofs/Wire/ValueRoundTrip — a value standing alone is read back

`Value.reads_encode`: the octets of a value are read as that value by every reader that may open as
many table levels as the value has.  Values and entries are taken together; a table being read is
what was stored so far (`Table.insertAll`), and a table listed in order is the table itself.
-/

namespace FrameSchema.Wire

/-! ## What success of a writer says -/

/-- A short text is written if one octet holds its length, which stands in front of it. -/
theorem encodeShortString_eq_ok_iff {s : String} {octets : Octets} :
    encodeShortString s = .ok octets ↔ (Octets.ofText s).length < 256 ∧
      Octets.bigEndian 1 (Octets.ofText s).length ++ Octets.ofText s = octets := by
  rw [encodeShortString]
  by_cases h : s.utf8ByteSize < 256
  · simp [h]
  · simp [h]

theorem reads_encodeShortString {s : String} {octets : Octets}
    (h : encodeShortString s = .ok octets) : Reads readShortString octets s := by
  obtain ⟨hlength, rfl⟩ := encodeShortString_eq_ok_iff.1 h
  exact reads_readShortString hlength

/-- Octets are written if four octets hold their number, which stands in front of them. -/
theorem encodeLong_eq_ok_iff {tooLong : Nat → Error} {body octets : Octets} :
    encodeLong tooLong body = .ok octets ↔
      body.length < UInt32.size ∧ Octets.bigEndian 4 body.length ++ body = octets := by
  rw [encodeLong]
  by_cases h : body.length < UInt32.size
  · rw [if_pos h, Except.ok.injEq, and_iff_right h]
  · rw [if_neg h]
    exact ⟨fun hok => (nomatch hok), fun hok => absurd hok.1 h⟩

/-- The octets of an entry and of those behind it. -/
theorem Entries.encode_cons_eq_ok_iff {floor : Option String} {key : String}
    {above : Above floor key} {value : Value} {rest : Entries (some key)} {octets : Octets} :
    (Entries.cons key above value rest).encode = .ok octets ↔
      ∃ k v r, encodeShortString key = .ok k ∧ value.encode = .ok v ∧ rest.encode = .ok r ∧
        k ++ value.primitive.tag :: v ++ r = octets := by
  rw [Entries.encode, bind_eq_ok_iff]
  refine exists_congr fun k => ?_
  simp only [bind_eq_ok_iff, Pure.pure, Except.pure, Except.ok.injEq, exists_and_left]

/-! ## Reading entries -/

section Entries

variable {nested : Primitive → Read Value} {stop budget : Nat} {table : Table}

/-- Behind the last entry nothing is read. -/
theorem readEntries_of_le {r : Reader} (h : stop ≤ r.position) :
    readEntries nested stop budget table r = .ok table r := by
  cases budget with
  | zero => rfl
  | succ budget =>
    rw [readEntries, get_bind, if_neg (by omega)]
    rfl

/-- Behind the key and the tag of an entry stands its value, and then the entries that follow. -/
theorem readEntries_entry {key : String} {k : Octets} (hk : encodeShortString key = .ok k)
    (kind : Primitive) {position : Nat} (h : position < stop) (rest : Octets) :
    readEntries nested stop (budget + 1) table ⟨position, k ++ kind.tag :: rest⟩
      = (nested kind >>= fun value => readEntries nested stop budget (table.insert key value))
          ⟨position + k.length + 1, rest⟩ := by
  have hkey := reads_encodeShortString hk position (kind.tag :: rest)
  have hkind : readTag ⟨position + k.length, kind.tag :: rest⟩ = .ok kind ⟨_, rest⟩ :=
    reads_readTag kind (position + k.length) rest
  rw [readEntries]
  grind

/-- The octets of an entry take their reader to its value, with the octets of those that follow
behind it and as much of the budget left as these need. -/
theorem readEntries_append {key : String} {k v r : Octets} (hk : encodeShortString key = .ok k)
    (kind : Primitive) (nested : Primitive → Read Value) (table : Table) {position budget : Nat}
    (rest : Octets) (hbudget : (k ++ kind.tag :: v ++ r).length ≤ budget) :
    ∃ position' budget', r.length ≤ budget' ∧
      position + (k ++ kind.tag :: v ++ r).length = position' + v.length + r.length ∧
      readEntries nested (position + (k ++ kind.tag :: v ++ r).length) budget table
          ⟨position, k ++ kind.tag :: v ++ r ++ rest⟩
        = (nested kind >>= fun value =>
            readEntries nested (position' + v.length + r.length) budget'
              (table.insert key value)) ⟨position', v ++ (r ++ rest)⟩ := by
  have hlength : (k ++ kind.tag :: v ++ r).length = k.length + 1 + v.length + r.length := by
    simp only [List.length_append, List.length_cons]
    omega
  have hoctets : k ++ kind.tag :: v ++ r ++ rest = k ++ kind.tag :: (v ++ (r ++ rest)) := by simp
  have hstop : position + (k.length + 1 + v.length + r.length)
      = position + k.length + 1 + v.length + r.length := by omega
  rw [hlength] at hbudget ⊢
  obtain ⟨budget, rfl⟩ : ∃ n, budget = n + 1 := Nat.exists_eq_succ_of_ne_zero (by omega)
  refine ⟨position + k.length + 1, budget, by omega, hstop, ?_⟩
  rw [hoctets, readEntries_entry hk _ (by omega), hstop]

/-- **A table is read** if its entries are, up to exactly its end. -/
theorem reads_readTable {body : Octets} (hlength : body.length < UInt32.size)
    (hentries : ∀ (position : Nat) (rest : Octets),
      readEntries nested (position + body.length) body.length .empty ⟨position, body ++ rest⟩
        = .ok table ⟨position + body.length, rest⟩) :
    Reads (readTable nested) (Octets.bigEndian 4 body.length ++ body) table := by
  refine (reads_readNat hlength).bind fun position rest => ?_
  rw [bind_of_ok (checkLength_append position body rest), get_bind,
    bind_of_ok (hentries position rest), get_bind, if_pos rfl]
  rfl

end Entries

/-! ## Values and entries together -/

/-- Only tables have levels. -/
theorem Value.tableDepth_of_ne {v : Value} (h : v.primitive ≠ .table) : v.tableDepth = 0 := by
  cases v with
  | table entries => exact absurd rfl h
  | _ => rfl

mutual

/-- **A value standing alone is read back** with as many table levels to open as it has. -/
theorem Value.reads_encode : ∀ (value : Value) {levels : Nat} {octets : Octets},
    value.encode = .ok octets → value.tableDepth ≤ levels →
      Reads (readValue levels value.primitive) octets value
  | .octet v, levels, octets, h, _ => by
      obtain rfl := Except.ok.inj h
      rw [Value.primitive, readValue]
      exact (reads_readOctet v).map (.pure _)
  | .short v, levels, octets, h, _ => by
      obtain rfl := Except.ok.inj h
      rw [Value.primitive, readValue]
      exact (reads_readShort v).map (.pure _)
  | .long v, levels, octets, h, _ => by
      obtain rfl := Except.ok.inj h
      rw [Value.primitive, readValue]
      exact (reads_readLong v).map (.pure _)
  | .longlong v, levels, octets, h, _ | .timestamp v, levels, octets, h, _ => by
      obtain rfl := Except.ok.inj h
      rw [Value.primitive, readValue]
      exact (reads_readLonglong v).map (.pure _)
  | .bit v, levels, octets, h, _ => by
      obtain rfl := Except.ok.inj h
      rw [Value.primitive, readValue]
      cases v with
      | false => exact (reads_readOctet 0).map (.pure _)
      | true => exact (reads_readOctet 1).map (.pure _)
  | .shortstr s, levels, octets, h, _ => by
      rw [Value.primitive, readValue]
      exact (reads_encodeShortString h).map (.pure _)
  | .longstr s, levels, octets, h, _ => by
      obtain ⟨hlength, rfl⟩ := encodeLong_eq_ok_iff.1 h
      rw [Value.primitive, readValue]
      exact (reads_readLongString hlength).map (.pure _)
  | .table entries, 0, octets, _, hdepth => absurd hdepth (by rw [Value.tableDepth]; omega)
  | .table entries, levels + 1, octets, h, hdepth => by
      rw [Value.encode, bind_eq_ok_iff] at h
      obtain ⟨body, hbody, h⟩ := h
      obtain ⟨hlength, rfl⟩ := encodeLong_eq_ok_iff.1 h
      rw [Value.tableDepth, Nat.add_le_add_iff_right] at hdepth
      rw [Value.primitive, readValue]
      refine (reads_readTable hlength fun position rest => ?_).map (.pure _)
      rw [Entries.readEntries_encode entries hbody hdepth le_rfl, Table.insertAll, ← Table.ofList,
        Table.ofList_toList]

/-- Entries are read back into the table they are added to. -/
theorem Entries.readEntries_encode : ∀ {floor : Option String} (entries : Entries floor)
    {levels budget position : Nat} {octets rest : Octets} {table : Table},
    entries.encode = .ok octets → entries.tableDepth ≤ levels → octets.length ≤ budget →
      readEntries (readValue levels) (position + octets.length) budget table
          ⟨position, octets ++ rest⟩
        = .ok (table.insertAll entries.toList) ⟨position + octets.length, rest⟩
  | _, .nil, levels, budget, position, octets, rest, table, h, _, _ => by
      obtain rfl := Except.ok.inj h
      exact readEntries_of_le le_rfl
  | _, .cons key above value tail, levels, budget, position, octets, rest, table, h, hdepth,
      hbudget => by
      obtain ⟨k, v, r, hk, hv, hr, rfl⟩ := Entries.encode_cons_eq_ok_iff.1 h
      obtain ⟨position', budget', hbudget', hstop, hread⟩ :=
        readEntries_append hk value.primitive (readValue levels) table rest hbudget
      rw [Entries.tableDepth, max_le_iff] at hdepth
      have hvalue := Value.reads_encode value hv hdepth.1 position' (r ++ rest)
      rw [hread, bind_of_ok hvalue, Entries.readEntries_encode tail hr hdepth.2 hbudget', hstop]
      rfl

end

end FrameSchema.Wire
