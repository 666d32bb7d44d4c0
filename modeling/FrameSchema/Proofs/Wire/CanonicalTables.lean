import FrameSchema.Proofs.Text.Utf8Order
import FrameSchema.Proofs.Wire.Reencoding

/-!
# Proofs/Wire/CanonicalTables — the octets of a table tell nothing of how it was built

A program builds a table by insertions, of values that may be tables built so themselves: a `Draft`
keeps them all, in their order, the overwritten ones too.  Two drafts are the same if every key has
the same last value in both (`Draft.Same`), and this is exactly when they build one value
(`Draft.same_iff_value_eq`).  So the octets depend on nothing else, and they list the value's own
draft, whose keys ascend (`Value.draft_ascending`).  A reader goes through the insertions that it
finds, whatever their order (`Draft.reads_value`), and finds no other (`coversReading_draftedBy`).
-/

namespace FrameSchema.Wire

/-! ## Drafts -/

mutual

/-- How a value comes about: at once, or as a table by insertions. -/
inductive Draft where
  | plain (value : Value) (h : value.primitive ≠ .table)
  | table (insertions : Insertions)

/-- Insertions into a table, the first one in front. -/
inductive Insertions where
  | nil
  | cons (key : String) (value : Draft) (rest : Insertions)

end

mutual

/-- The value that comes about. -/
def Draft.value : Draft → Value
  | .plain value _ => value
  | .table insertions => .table (Table.ofList insertions.entries)

/-- The keys and values inserted, in order. -/
def Insertions.entries : Insertions → List (String × Value)
  | .nil => []
  | .cons key value rest => (key, value.value) :: rest.entries

end

mutual

/-- How many tables lie inside one another, those of overwritten values counted too. -/
def Draft.depth : Draft → Nat
  | .plain _ _ => 0
  | .table insertions => insertions.depth + 1

/-- The deepest level that an inserted value reaches. -/
def Insertions.depth : Insertions → Nat
  | .nil => 0
  | .cons _ value rest => max value.depth rest.depth

end

namespace Insertions

/-- The table that is built. -/
def table (insertions : Insertions) : Table := Table.ofList insertions.entries

/-- The keys inserted, in order. -/
def keys : Insertions → List String
  | nil => []
  | cons key _ rest => key :: rest.keys

/-- What is inserted last under a key. -/
def last? : Insertions → String → Option Draft
  | nil, _ => none
  | cons key value rest, k => (rest.last? k).or (if k = key then some value else none)

/-- The last value of every key that is inserted. -/
theorem isSome_last? (k : String) : ∀ insertions : Insertions,
    (insertions.last? k).isSome ↔ k ∈ insertions.keys
  | nil => by simp [last?, keys]
  | cons key value rest => by
      rw [last?, keys, Option.isSome_or, Bool.or_eq_true, isSome_last? k rest, List.mem_cons]
      by_cases h : k = key <;> simp [h, or_comm]

/-- Seen from behind, the first entry of a key is what was inserted last. -/
theorem lookup_reverse_entries (k : String) : ∀ insertions : Insertions,
    insertions.entries.reverse.lookup k = (insertions.last? k).map Draft.value
  | nil => rfl
  | cons key value rest => by
      rw [entries, List.reverse_cons, List.lookup_append, lookup_reverse_entries k rest, last?,
        Option.map_or]
      by_cases h : k = key
      · rw [if_pos h, h, List.lookup_cons_self]
        rfl
      · rw [if_neg h, lookup_cons_of_ne h]
        rfl

/-- **The table answers with what was inserted last.** -/
@[simp] theorem get?_table (insertions : Insertions) (k : String) :
    insertions.table.get? k = (insertions.last? k).map Draft.value := by
  rw [table, Table.get?_ofList, lookup_reverse_entries]

end Insertions

/-! ## Drafts of one value -/

/-- The drafts end with the same values under the same keys, down to the innermost tables. -/
inductive Draft.Same : Draft → Draft → Prop where
  | plain {value : Value} (h h' : value.primitive ≠ .table) :
      Same (.plain value h) (.plain value h')
  | table {insertions insertions' : Insertions}
      (keys : ∀ k, k ∈ insertions.keys ↔ k ∈ insertions'.keys)
      (values : ∀ k x x', insertions.last? k = some x → insertions'.last? k = some x' →
        Same x x') :
      Same (.table insertions) (.table insertions')

/-- Drafts that end alike build one value. -/
theorem Draft.Same.value_eq {x x' : Draft} (h : x.Same x') : x.value = x'.value := by
  induction h with
  | plain => rfl
  | @table insertions insertions' keys values ih =>
    have htable : insertions.table = insertions'.table := Entries.ext_get? fun k => by
      have hkeys := keys k
      rw [← Insertions.isSome_last?, ← Insertions.isSome_last?] at hkeys
      cases hx : insertions.last? k with
      | none =>
        rw [hx] at hkeys
        cases hx' : insertions'.last? k with
        | none => simp [hx, hx']
        | some x' => simp [hx'] at hkeys
      | some x =>
        rw [hx] at hkeys
        obtain ⟨x', hx'⟩ := Option.isSome_iff_exists.1 (hkeys.1 rfl)
        simp [hx, hx', ih k x x' hx hx']
    exact congrArg Value.table htable

mutual

/-- Drafts of one value end alike, down to the innermost tables. -/
theorem Draft.same_of_value_eq : ∀ (x x' : Draft), x.value = x'.value → x.Same x'
  | .plain value h, .plain value' h', heq => by
      obtain rfl : value = value' := heq
      exact .plain h h'
  | .plain value h, .table insertions, heq => absurd (congrArg Value.primitive heq) h
  | .table insertions, .plain value h, heq => absurd (congrArg Value.primitive heq).symm h
  | .table insertions, .table insertions', heq => by
      have hget (k : String) : (insertions.last? k).map Draft.value
          = (insertions'.last? k).map Draft.value := by
        rw [← Insertions.get?_table, ← Insertions.get?_table]
        exact congrArg (Entries.get? · k) (Value.table.inj heq)
      refine .table (fun k => ?_) fun k x x' hx hx' => ?_
      · rw [← Insertions.isSome_last?, ← Insertions.isSome_last?, ← Option.isSome_map, hget,
          Option.isSome_map]
      · have hvalue := hget k
        rw [hx, hx'] at hvalue
        exact insertions.same_of_last? hx x' (Option.some.inj hvalue)

/-- What is inserted last under a key is a draft of its own. -/
theorem Insertions.same_of_last? : ∀ (insertions : Insertions) {k : String} {x : Draft},
    insertions.last? k = some x → ∀ x', x.value = x'.value → x.Same x'
  | .cons key value rest, k, x, hx, x', heq => by
      rw [Insertions.last?, Option.or_eq_some_iff] at hx
      rcases hx with hx | ⟨-, hx⟩
      · exact rest.same_of_last? hx x' heq
      · obtain ⟨-, rfl⟩ : k = key ∧ value = x := by simpa using hx
        exact value.same_of_value_eq x' heq

end

/-- **Two drafts are the same exactly if one value comes about.** -/
theorem Draft.same_iff_value_eq {x x' : Draft} : x.Same x' ↔ x.value = x'.value :=
  ⟨Same.value_eq, x.same_of_value_eq x'⟩

/-! ## Octets of drafts -/

mutual

/-- The octets spell the draft: what is no table has a form of its own, and a table is the exact
number of the octets that follow, and these. -/
inductive Draft.Spelled (form : Value → Octets → Prop) : Draft → Octets → Prop where
  | plain {value : Value} {octets : Octets} (hne : value.primitive ≠ .table)
      (h : form value octets) : Draft.Spelled form (.plain value hne) octets
  | table {insertions : Insertions} {body : Octets} (length : body.length < 2 ^ 32)
      (h : Insertions.Spelled form insertions body) :
      Draft.Spelled form (.table insertions) (Octets.bigEndian 4 body.length ++ body)

/-- The octets spell the insertions, one after another: the length of a key, the key, a tag and the
value. -/
inductive Insertions.Spelled (form : Value → Octets → Prop) : Insertions → Octets → Prop where
  | nil : Insertions.Spelled form .nil []
  | cons {key : String} {x : Draft} {rest : Insertions} {v r : Octets}
      (length : key.utf8ByteSize ≤ 255) (hx : Draft.Spelled form x v)
      (hrest : Insertions.Spelled form rest r) :
      Insertions.Spelled form (.cons key x rest)
        (UInt8.ofNat key.utf8ByteSize :: Octets.ofText key ++ x.value.primitive.tag :: v ++ r)

end

/-- The octets that a writer gives for the value. -/
def Value.Written (value : Value) (octets : Octets) : Prop := value.encode = .ok octets

/-- The octets that a reader takes for the value: a set bit has more than one form. -/
inductive Value.Accepted : Value → Octets → Prop where
  | written {value : Value} {octets : Octets} (h : value.encode = .ok octets) :
      Accepted value octets
  | bit {octet : UInt8} (h : octet ≠ 0) : Accepted (.bit true) [octet]

theorem encodeShortString_eq_ok_iff_cons {s : String} {octets : Octets} :
    encodeShortString s = .ok octets ↔ s.utf8ByteSize ≤ 255 ∧
      UInt8.ofNat s.utf8ByteSize :: Octets.ofText s = octets := by
  rw [encodeShortString_eq_ok_iff, Octets.length_ofText, Nat.lt_succ_iff]
  rfl

/-! ## The ascending draft -/

mutual

/-- The keys of every table ascend strictly, by the octets of their texts. -/
inductive Draft.Ascending : Draft → Prop where
  | plain {value : Value} (h : value.primitive ≠ .table) : Draft.Ascending (.plain value h)
  | table {insertions : Insertions} (h : Insertions.Ascending insertions) :
      Draft.Ascending (.table insertions)

/-- The first key comes before all that follow, and so on. -/
inductive Insertions.Ascending : Insertions → Prop where
  | nil : Insertions.Ascending .nil
  | cons {key : String} {x : Draft} {rest : Insertions}
      (first : ∀ k ∈ rest.keys, Octets.ofText key < Octets.ofText k)
      (hx : Draft.Ascending x) (hrest : Insertions.Ascending rest) :
      Insertions.Ascending (.cons key x rest)

end

mutual

/-- The draft that inserts each key once, in order. -/
def Value.draft : Value → Draft
  | .octet v => .plain (.octet v) nofun
  | .short v => .plain (.short v) nofun
  | .long v => .plain (.long v) nofun
  | .longlong v => .plain (.longlong v) nofun
  | .bit v => .plain (.bit v) nofun
  | .shortstr s => .plain (.shortstr s) nofun
  | .longstr s => .plain (.longstr s) nofun
  | .timestamp v => .plain (.timestamp v) nofun
  | .table entries => .table entries.listing

/-- The insertions of the entries, in order. -/
def Entries.listing : {floor : Option String} → Entries floor → Insertions
  | _, .nil => .nil
  | _, .cons key _ value rest => .cons key value.draft rest.listing

end

@[simp] theorem Entries.keys_listing : ∀ {floor : Option String} (entries : Entries floor),
    entries.listing.keys = entries.keys
  | _, .nil => rfl
  | _, .cons key _ _ rest => congrArg (key :: ·) rest.keys_listing

mutual

/-- The value comes about by its draft. -/
@[simp] theorem Value.value_draft : ∀ value : Value, value.draft.value = value
  | .octet _ | .short _ | .long _ | .longlong _ | .bit _ | .shortstr _ | .longstr _
  | .timestamp _ => rfl
  | .table entries => by
      simp [Value.draft, Draft.value, entries.entries_listing]

@[simp] theorem Entries.entries_listing : ∀ {floor : Option String} (entries : Entries floor),
    entries.listing.entries = entries.toList
  | _, .nil => rfl
  | _, .cons key _ value rest => by
      simp [Entries.listing, Insertions.entries, Entries.toList, value.value_draft,
        rest.entries_listing]

end

mutual

/-- **The keys of a value's draft ascend.** -/
theorem Value.draft_ascending : ∀ value : Value, value.draft.Ascending
  | .octet _ | .short _ | .long _ | .longlong _ | .bit _ | .shortstr _ | .longstr _
  | .timestamp _ => .plain _
  | .table entries => .table entries.listing_ascending

/-- The keys of entries ascend, and so do those in their values. -/
theorem Entries.listing_ascending : ∀ {floor : Option String} (entries : Entries floor),
    entries.listing.Ascending
  | _, .nil => .nil
  | _, .cons key _ value rest => by
      refine .cons (fun k hk => ?_) value.draft_ascending rest.listing_ascending
      have hrest : k ∈ rest.keys := by simpa using hk
      exact Octets.ofText_lt_ofText (above_some.1 (rest.above_of_mem_keys hrest))

end

mutual

/-- **What a writer gives spells the value's draft.** -/
theorem Value.draft_spelled : ∀ (value : Value) {octets : Octets}, value.encode = .ok octets →
    value.draft.Spelled Value.Written octets
  | .octet _, _, h | .short _, _, h | .long _, _, h | .longlong _, _, h | .bit _, _, h
  | .shortstr _, _, h | .longstr _, _, h | .timestamp _, _, h => .plain _ h
  | .table entries, octets, h => by
      rw [Value.encode, bind_eq_ok_iff] at h
      obtain ⟨body, hbody, hlong⟩ := h
      obtain ⟨hlength, rfl⟩ := encodeLong_eq_ok_iff.1 hlong
      exact .table hlength (entries.listing_spelled hbody)

/-- What is written for entries spells their insertions. -/
theorem Entries.listing_spelled : ∀ {floor : Option String} (entries : Entries floor)
    {octets : Octets}, entries.encode = .ok octets →
      entries.listing.Spelled Value.Written octets
  | _, .nil, octets, h => by
      obtain rfl := Except.ok.inj h
      exact .nil
  | _, .cons key _ value rest, octets, h => by
      obtain ⟨k, v, r, hk, hv, hr, rfl⟩ := Entries.encode_cons_eq_ok_iff.1 h
      obtain ⟨hlength, rfl⟩ := encodeShortString_eq_ok_iff_cons.1 hk
      have hall := Insertions.Spelled.cons hlength (value.draft_spelled hv)
        (rest.listing_spelled hr)
      rwa [value.value_draft] at hall

end

/-- The octets list each key of the insertions once, in ascending order, with the value that was
inserted last; and so do those of the tables inside. -/
def Insertions.ListedBy (insertions : Insertions) (octets : Octets) : Prop :=
  ∃ listing : Insertions, listing.Ascending ∧ (Draft.table listing).Same (.table insertions) ∧
    (Draft.table listing).Spelled Value.Written octets

/-- **What is written of a table lists its keys in order.** -/
theorem Insertions.listedBy_of_encode {insertions : Insertions} {octets : Octets}
    (h : (Value.table insertions.table).encode = .ok octets) : insertions.ListedBy octets := by
  refine ⟨insertions.table.listing, insertions.table.listing_ascending, ?_,
    (Value.table insertions.table).draft_spelled h⟩
  exact Draft.same_iff_value_eq.2 (Value.table insertions.table).value_draft

/-! ## Reading -/

mutual

/-- **A draft is read by going through its insertions**, whatever their order. -/
theorem Draft.reads_value : ∀ (x : Draft) {levels : Nat} {octets : Octets},
    x.Spelled Value.Accepted octets → x.depth ≤ levels →
      Reads (readValue levels x.value.primitive) octets x.value
  | .plain value hne, levels, octets, h, _ => by
      cases h with
      | plain _ h =>
        cases h with
        | written h =>
          exact value.reads_encode h (by rw [Value.tableDepth_of_ne hne]; exact Nat.zero_le _)
        | @bit octet h =>
          have hread : Reads readOctet [octet] octet := by simpa using reads_readOctet octet
          rw [Draft.value, Value.primitive, readValue]
          refine hread.map ?_
          rw [bne_iff_ne.2 h]
          exact .pure _
  | .table insertions, 0, octets, _, hdepth => absurd hdepth (Nat.not_succ_le_zero _)
  | .table insertions, levels + 1, octets, h, hdepth => by
      cases h with
      | table hlength hbody =>
        rw [Draft.value, Value.primitive, readValue]
        exact (reads_readTable hlength fun position rest => insertions.readEntries_eq hbody
          (Nat.le_of_succ_le_succ hdepth) le_rfl).map (.pure _)

/-- Each insertion is read where its octets start, into the table as it is by then. -/
theorem Insertions.readEntries_eq : ∀ (insertions : Insertions) {levels budget position : Nat}
    {octets rest : Octets} {table : Table}, insertions.Spelled Value.Accepted octets →
      insertions.depth ≤ levels → octets.length ≤ budget →
        readEntries (readValue levels) (position + octets.length) budget table
            ⟨position, octets ++ rest⟩
          = .ok (table.insertAll insertions.entries) ⟨position + octets.length, rest⟩
  | .nil, levels, budget, position, octets, rest, table, h, _, _ => by
      cases h
      exact readEntries_of_le le_rfl
  | .cons key x tail, levels, budget, position, octets, rest, table, h, hdepth, hbudget => by
      cases h with
      | @cons _ _ _ v r hkey hx htail =>
        have hk := encodeShortString_eq_ok_iff_cons.2 ⟨hkey, rfl⟩
        obtain ⟨position', budget', hbudget', hstop, hread⟩ :=
          readEntries_append hk x.value.primitive (readValue levels) table rest hbudget
        rw [Insertions.depth, max_le_iff] at hdepth
        rw [hread, bind_of_ok (x.reads_value hx hdepth.1 position' (r ++ rest)),
          tail.readEntries_eq htail hdepth.2 hbudget', hstop]
        rfl

end

/-- The octets spell a draft of the value, of no more than so many levels. -/
def Value.DraftedBy (levels : Nat) (octets : Octets) (value : Value) : Prop :=
  ∃ x : Draft, x.value = value ∧ x.depth ≤ levels ∧ x.Spelled Value.Accepted octets

/-- The octets spell insertions, of no more than so many levels, by which one table becomes the
other. -/
def Table.DraftedBy (levels : Nat) (table : Table) (octets : Octets) (table' : Table) : Prop :=
  ∃ insertions : Insertions, table.insertAll insertions.entries = table' ∧
    insertions.depth ≤ levels ∧ insertions.Spelled Value.Accepted octets

/-- What is written for a value that is no table is a draft of it. -/
theorem Value.DraftedBy.of_encode {levels : Nat} {value : Value} {octets : Octets}
    (hne : value.primitive ≠ .table) (h : value.encode = .ok octets) :
    DraftedBy levels octets value :=
  ⟨.plain value hne, rfl, Nat.zero_le _, .plain hne (.written h)⟩

/-- Any octet is a draft of a bit. -/
theorem Value.draftedBy_bit (levels : Nat) (octet : UInt8) :
    DraftedBy levels [octet] (.bit (octet != 0)) := by
  by_cases h : octet = 0
  · subst h
    change DraftedBy levels [0] (.bit false)
    exact .of_encode nofun rfl
  · rw [bne_iff_ne.2 h]
    exact ⟨.plain (.bit true) nofun, rfl, Nat.zero_le _, .plain _ (.bit h)⟩

/-- **Whatever is read spells a draft**: a value one of itself, and entries insertions. -/
theorem coversReading_draftedBy : CoversReading Value.DraftedBy Table.DraftedBy where
  written := .of_encode
  bit := Value.draftedBy_bit
  nil _ _ := ⟨.nil, rfl, Nat.zero_le _, .nil⟩
  cons {_ key _ _ _ _ _ _} hk hv hr := by
    obtain ⟨hlength, rfl⟩ := encodeShortString_eq_ok_iff_cons.1 hk
    obtain ⟨x, rfl, hdepth, hx⟩ := hv
    obtain ⟨rest, rfl, hdepth', hrest⟩ := hr
    exact ⟨.cons key x rest, rfl, max_le hdepth hdepth', .cons hlength hx hrest⟩
  table hlength h := by
    obtain ⟨insertions, rfl, hdepth, hbody⟩ := h
    exact ⟨.table insertions, rfl, Nat.succ_le_succ hdepth, .table hlength hbody⟩

/-- **A value is read exactly from the octets that spell a draft of it.** -/
theorem readValue_eq_ok_iff {levels position : Nat} {kind : Primitive} {input : Octets}
    {value : Value} {r : Reader} : readValue levels kind ⟨position, input⟩ = .ok value r ↔
      ∃ x : Draft, x.value = value ∧ x.value.primitive = kind ∧ x.depth ≤ levels ∧
        ∃ octets rest, x.Spelled Value.Accepted octets ∧ input = octets ++ rest ∧
          r = ⟨position + octets.length, rest⟩ := by
  constructor
  · intro hok
    obtain ⟨octets, rest, rfl, rfl, ⟨x, rfl, hdepth, hx⟩, hkind⟩ :=
      coversReading_draftedBy.yields_readValue levels kind _ _ _ _ hok
    exact ⟨x, rfl, hkind, hdepth, octets, rest, hx, rfl, rfl⟩
  · rintro ⟨x, rfl, rfl, hdepth, octets, rest, hx, rfl, rfl⟩
    exact x.reads_value hx hdepth position rest

/-- **What was received can be written again**, and then each key is listed once. -/
theorem Insertions.exists_listedBy_of_spelled {insertions : Insertions} {received : Octets}
    (h : (Draft.table insertions).Spelled Value.Accepted received) :
    ∃ octets, (Value.table insertions.table).encode = .ok octets ∧ insertions.ListedBy octets := by
  have hread := (Draft.table insertions).reads_value h le_rfl 0 []
  obtain ⟨_, _, -, -, hrewritable⟩ := yields_readValue _ _ _ _ _ _ hread
  obtain ⟨octets, hoctets, -⟩ := hrewritable.fits
  exact ⟨octets, hoctets, listedBy_of_encode hoctets⟩

/-- **The octets of a table are canonical.**  Where a table that was built by insertions can be
written, its octets list each key once, in ascending order, with the value inserted last; other
insertions that end with the same values under the same keys, down to the innermost tables, are
written alike.  A table is read exactly where insertions are spelled, in whatever order and with
whatever repetitions, and what they build is written again in this form. -/
theorem octets_canonical :
    (∀ (insertions : Insertions) (octets : Octets),
      (Value.table insertions.table).encode = .ok octets → insertions.ListedBy octets) ∧
    (∀ insertions insertions' : Insertions, (Draft.table insertions).Same (.table insertions') →
      (Value.table insertions.table).encode = (Value.table insertions'.table).encode) ∧
    (∀ (levels position : Nat) (input : Octets) (value : Value) (r : Reader),
      readValue levels .table ⟨position, input⟩ = .ok value r ↔
        ∃ insertions : Insertions, value = .table insertions.table ∧
          (Draft.table insertions).depth ≤ levels ∧ ∃ received rest,
            (Draft.table insertions).Spelled Value.Accepted received ∧
            input = received ++ rest ∧ r = ⟨position + received.length, rest⟩) ∧
    ∀ (insertions : Insertions) (received : Octets),
      (Draft.table insertions).Spelled Value.Accepted received →
        ∃ octets, (Value.table insertions.table).encode = .ok octets ∧
          insertions.ListedBy octets := by
  refine ⟨fun insertions octets => insertions.listedBy_of_encode,
    fun insertions insertions' hsame => congrArg Value.encode hsame.value_eq,
    fun levels position input value r => ?_,
    fun insertions received => insertions.exists_listedBy_of_spelled⟩
  rw [readValue_eq_ok_iff]
  constructor
  · rintro ⟨x, rfl, hkind, hread⟩
    cases x with
    | plain value hne => exact absurd hkind hne
    | table insertions => exact ⟨insertions, rfl, hread⟩
  · rintro ⟨insertions, rfl, hread⟩
    exact ⟨.table insertions, rfl, rfl, hread⟩

/-- Keys out of order and twice, outside and inside. -/
def unsorted : Insertions :=
  .cons "b" (.plain (.short 1) nofun) <|
  .cons "a" (.table <| .cons "y" (.plain (.bit true) nofun) <|
    .cons "x" (.plain (.octet 7) nofun) <| .cons "y" (.plain (.bit false) nofun) .nil) <|
  .cons "b" (.plain (.short 2) nofun) .nil

/-- The same keys with the same last values, each once. -/
def sorted : Insertions :=
  .cons "a" (.table <| .cons "x" (.plain (.octet 7) nofun) <|
    .cons "y" (.plain (.bit false) nofun) .nil) <|
  .cons "b" (.plain (.short 2) nofun) .nil

/-- What is received for the unsorted keys; the overwritten bit is set by an octet of its own. -/
def unsortedOctets : Octets :=
  [0, 0, 0, 29, 1, 98, 117, 0, 1, 1, 97, 70, 0, 0, 0, 12, 1, 121, 116, 5, 1, 120, 66, 7, 1, 121,
    116, 0, 1, 98, 117, 0, 2]

/-- What is written for both. -/
def sortedOctets : Octets :=
  [0, 0, 0, 20, 1, 97, 70, 0, 0, 0, 8, 1, 120, 66, 7, 1, 121, 116, 0, 1, 98, 117, 0, 2]

theorem spelled_unsorted : (Draft.table unsorted).Spelled Value.Accepted unsortedOctets := by
  have hset : (Draft.plain (.bit true) nofun).Spelled Value.Accepted [5] := .plain _ (.bit nofun)
  have hspelled : (Draft.table unsorted).Spelled Value.Accepted _ :=
    .table (by decide) <| .cons (by decide) (.plain _ (.written rfl)) <|
      .cons (by decide) (.table (by decide) <| .cons (by decide) hset <|
        .cons (by decide) (.plain _ (.written rfl)) <|
        .cons (by decide) (.plain _ (.written rfl)) .nil) <|
      .cons (by decide) (.plain _ (.written rfl)) .nil
  exact hspelled

/-- The unsorted keys are read, and written again in order, as the sorted ones are. -/
theorem unsorted_sorted :
    readValue 2 .table ⟨0, unsortedOctets ++ [206]⟩ = .ok (.table unsorted.table) ⟨33, [206]⟩ ∧
    (Value.table unsorted.table).encode = .ok sortedOctets ∧ unsorted.ListedBy sortedOctets ∧
    (Value.table sorted.table).encode = .ok sortedOctets := by
  obtain ⟨hlisted, hsame, hread, hreceived⟩ := octets_canonical
  have hwritten : (Value.table unsorted.table).encode = .ok sortedOctets := by decide +kernel
  obtain ⟨octets, hoctets, hlisted'⟩ := hreceived unsorted unsortedOctets spelled_unsorted
  obtain rfl : octets = sortedOctets := Except.ok.inj (hoctets.symm.trans hwritten)
  have hspelled := spelled_unsorted
  refine ⟨(hread ..).2 ⟨unsorted, rfl, by decide, unsortedOctets, [206], hspelled, rfl, rfl⟩,
    hwritten, hlisted', ?_⟩
  rw [hsame sorted unsorted (Draft.same_iff_value_eq.2 (by decide +kernel)), hwritten]

end FrameSchema.Wire
