import FrameSchema.Proofs.Wire.Consumption

/-!
# Proofs/Wire/Reencoding — a value that was read can be written, and takes no more room

A reader is not strict: it takes the keys of a table in any order and more than once, and any octet
for a bit.  Still each value that it gives can be written in no more octets than it was read from
(`yields_readValue`): an entry whose key comes again takes the place of one that had octets of its
own.  A value of this kind is bounded (`Value.Rewritable.bounded`), whatever the input was.
-/

namespace FrameSchema.Wire

/-! ## Room -/

/-- The writer succeeds, with at most `room` octets. -/
def FitsIn (written : Except Error Octets) (room : Nat) : Prop :=
  ∃ octets, written = .ok octets ∧ octets.length ≤ room

/-- The value can be written in `room` octets and be read where `levels` tables may be opened. -/
structure Value.Rewritable (value : Value) (levels room : Nat) : Prop where
  depth : value.tableDepth ≤ levels
  fits : FitsIn value.encode room

/-- The entries can be written in `room` octets and be read where `levels` tables may be opened. -/
structure Entries.Rewritable {floor : Option String} (entries : Entries floor)
    (levels room : Nat) : Prop where
  depth : entries.tableDepth ≤ levels
  fits : FitsIn entries.encode room

/-- A value that is no table has only its octets to show. -/
theorem Value.Rewritable.of_encode {value : Value} {octets : Octets} {levels room : Nat}
    (hdepth : value.tableDepth = 0) (h : value.encode = .ok octets)
    (hlength : octets.length ≤ room) : value.Rewritable levels room :=
  ⟨hdepth ▸ Nat.zero_le levels, octets, h, hlength⟩

/-! ## Entries in place of others -/

namespace Entries

variable {key : String} {k v : Octets} {value : Value}

/-- **An entry that is put among others adds no more than its own octets.** -/
theorem fitsIn_encode_insertAbove (hk : encodeShortString key = .ok k)
    (hv : value.encode = .ok v) : ∀ {floor : Option String} (entries : Entries floor)
      (above : Above floor key) {octets : Octets}, entries.encode = .ok octets →
        FitsIn (entries.insertAbove key above value).encode
          (octets.length + (k.length + 1 + v.length))
  | _, .nil, above, octets, h => by
      refine ⟨_, encode_cons_eq_ok_iff.2 ⟨k, v, [], hk, hv, rfl, rfl⟩, ?_⟩
      simp only [List.length_append, List.length_cons, List.length_nil]
      omega
  | _, .cons first hfirst w rest, above, octets, h => by
      unfold insertAbove
      split
      · -- The entry comes in front.
        have hbehind : (cons first (.over (by assumption)) w rest).encode = .ok octets :=
          encode_cons_eq_ok_iff.2 (encode_cons_eq_ok_iff.1 h)
        refine ⟨_, encode_cons_eq_ok_iff.2 ⟨k, v, octets, hk, hv, hbehind, rfl⟩, ?_⟩
        simp only [List.length_append, List.length_cons]
        omega
      · obtain ⟨f, w', r, hf, hw, hr, rfl⟩ := encode_cons_eq_ok_iff.1 h
        split
        · -- The entry takes the place of one with the same key, whose value is dropped.
          refine ⟨_, encode_cons_eq_ok_iff.2 ⟨f, v, r, hf, hv, hr, rfl⟩, ?_⟩
          simp only [List.length_append, List.length_cons]
          omega
        · obtain ⟨r', hr', hlength⟩ := fitsIn_encode_insertAbove hk hv rest _ hr
          refine ⟨_, encode_cons_eq_ok_iff.2 ⟨f, w', r', hf, hw, hr', rfl⟩, ?_⟩
          simp only [List.length_append, List.length_cons]
          omega

/-- An entry that is put among others opens no more levels than it or they do. -/
theorem tableDepth_insertAbove_le (key : String) (value : Value) : ∀ {floor : Option String}
    (entries : Entries floor) (above : Above floor key),
    (entries.insertAbove key above value).tableDepth ≤ max value.tableDepth entries.tableDepth
  | _, .nil, _ => le_rfl
  | _, .cons first hfirst w rest, above => by
      unfold insertAbove
      split
      · exact le_rfl
      · split
        · simp only [tableDepth]
          omega
        · rename_i hlt heq
          have hrest := tableDepth_insertAbove_le key value rest (.of_not_lt hlt heq)
          simp only [tableDepth]
          omega

end Entries

/-- A table into which an entry was read. -/
theorem Table.rewritable_insert {table : Table} {levels room room' : Nat} {key : String}
    {k : Octets} {value : Value} (h : Entries.Rewritable table levels room)
    (hk : encodeShortString key = .ok k) (hvalue : value.Rewritable levels room') :
    Entries.Rewritable (table.insert key value) levels (room + (k.length + 1 + room')) where
  depth := (Entries.tableDepth_insertAbove_le key value table _).trans
    (max_le hvalue.depth h.depth)
  fits := by
    obtain ⟨octets, hoctets, hlength⟩ := h.fits
    obtain ⟨v, hv, hv'⟩ := hvalue.fits
    obtain ⟨t, ht, ht'⟩ := Entries.fitsIn_encode_insertAbove hk hv table (.all key) hoctets
    exact ⟨t, ht, by omega⟩

/-! ## Tables and values -/

/-- A table is one level deeper than its entries, and four octets longer. -/
theorem Entries.Rewritable.table {entries : Table} {levels room : Nat}
    (h : Entries.Rewritable entries levels room) (hroom : room < UInt32.size) :
    (Value.table entries).Rewritable (levels + 1) (4 + room) where
  depth := by
    rw [Value.tableDepth]
    exact Nat.succ_le_succ h.depth
  fits := by
    obtain ⟨body, hbody, hlength⟩ := h.fits
    refine ⟨Octets.bigEndian 4 body.length ++ body, ?_, ?_⟩
    · rw [Value.encode, hbody]
      exact encodeLong_eq_ok_iff.2 ⟨hlength.trans_lt hroom, rfl⟩
    · simpa using hlength

/-- **Reading an entry adds no more than its octets**, be it a new one or one in place of another;
so a table takes no more room than it was read from. -/
theorem coversReading_rewritable :
    CoversReading (fun levels s v => v.Rewritable levels s.length) fun levels table s t =>
      ∀ room, Entries.Rewritable table levels room →
        Entries.Rewritable t levels (room + s.length) where
  written hne h := .of_encode (Value.tableDepth_of_ne hne) h le_rfl
  bit _ _ := .of_encode rfl rfl le_rfl
  nil _ _ _ h := h
  cons {_ _ k v r value _ _} hk hv hr room h := by
    have hlength : room + (k.length + 1 + v.length) + r.length
        = room + (k ++ value.primitive.tag :: v ++ r).length := by
      simp only [List.length_append, List.length_cons]
      omega
    rw [← hlength]
    exact hr _ (Table.rewritable_insert h hk hv)
  table {levels body _} hlength h := by
    have hempty : Entries.Rewritable Table.empty levels 0 := ⟨Nat.zero_le _, [], rfl, le_rfl⟩
    have hentries := h 0 hempty
    simpa using hentries.table (by simpa using hlength)

/-- **A value is written in no more octets than it was read from.** -/
theorem yields_readValue (levels : Nat) (kind : Primitive) :
    Yields (readValue levels kind) fun s v => v.Rewritable levels s.length :=
  (coversReading_rewritable.yields_readValue levels kind).imp fun _ _ h => h.1

/-! ## Bounds -/

mutual

/-- The texts in a value that stand behind a length of one octet: short strings and the keys of
tables. -/
def Value.shortTexts : Value → List String
  | .shortstr s => [s]
  | .table entries => entries.shortTexts
  | _ => []

/-- The keys of entries, and the short strings and keys in their values. -/
def Entries.shortTexts : {floor : Option String} → Entries floor → List String
  | _, .nil => []
  | _, .cons key _ value rest => key :: (value.shortTexts ++ rest.shortTexts)

end

/-- A short text that can be written has a length in one octet. -/
theorem utf8ByteSize_le_of_encodeShortString {s : String} {octets : Octets}
    (h : encodeShortString s = .ok octets) : s.utf8ByteSize ≤ 255 :=
  Nat.le_of_lt_succ (encodeShortString_eq_ok_iff.1 h).1

mutual

/-- What can be written has no short text that is too long. -/
theorem Value.utf8ByteSize_le_of_encode : ∀ (value : Value) {octets : Octets},
    value.encode = .ok octets → ∀ s ∈ value.shortTexts, s.utf8ByteSize ≤ 255
  | .shortstr s, octets, h, t, ht => by
      obtain rfl := List.mem_singleton.1 ht
      exact utf8ByteSize_le_of_encodeShortString h
  | .table entries, octets, h, t, ht => by
      rw [Value.encode, bind_eq_ok_iff] at h
      obtain ⟨body, hbody, -⟩ := h
      exact entries.utf8ByteSize_le_of_encode hbody t ht

theorem Entries.utf8ByteSize_le_of_encode : ∀ {floor : Option String} (entries : Entries floor)
    {octets : Octets}, entries.encode = .ok octets →
      ∀ s ∈ entries.shortTexts, s.utf8ByteSize ≤ 255
  | _, .cons key above value rest, octets, h, t, ht => by
      obtain ⟨k, v, r, hk, hv, hr, -⟩ := Entries.encode_cons_eq_ok_iff.1 h
      rw [Entries.shortTexts, List.mem_cons, List.mem_append] at ht
      rcases ht with rfl | ht | ht
      · exact utf8ByteSize_le_of_encodeShortString hk
      · exact value.utf8ByteSize_le_of_encode hv t ht
      · exact rest.utf8ByteSize_le_of_encode hr t ht

end

/-- **The bounds of a received value**: no short text has more than 255 octets, and no more than 64
tables lie inside one another. -/
structure Value.Bounded (value : Value) : Prop where
  shortTexts : ∀ s ∈ value.shortTexts, s.utf8ByteSize ≤ 255
  depth : value.tableDepth ≤ 64

/-- What can be written, and read again, is bounded. -/
theorem Value.Rewritable.bounded {value : Value} {room : Nat}
    (h : value.Rewritable maxTableDepth room) : value.Bounded where
  shortTexts := by
    obtain ⟨octets, hoctets, -⟩ := h.fits
    exact value.utf8ByteSize_le_of_encode hoctets
  depth := h.depth

theorem Value.bounded_bit (b : Bool) : (Value.bit b).Bounded :=
  ⟨(fun _ h => nomatch h), Nat.zero_le 64⟩

end FrameSchema.Wire
