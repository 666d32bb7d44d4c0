import FrameSchema.Wire.Value
import Mathlib.Data.List.Nodup

/-!
# Proofs/Wire/TableView — a table is what it answers

The keys of a table ascend, so it lists each once (`Entries.nodup_keys`) and answers by that list
(`Entries.get?_eq_lookup`); a table built from a list answers with the value that came last
(`Table.get?_ofList`).  Two tables that answer alike are equal (`Entries.ext_get?`), whence listing
a table and building it again changes nothing (`Table.ofList_toList`).
-/

namespace FrameSchema.Wire

/-! ## Lookup in lists whose keys differ -/

section Lookup

variable {α β : Type} [DecidableEq α]

theorem lookup_cons_of_ne {k j : α} {w : β} {l : List (α × β)} (h : k ≠ j) :
    ((j, w) :: l).lookup k = l.lookup k := by
  rw [List.lookup_cons, beq_false_of_ne h]

theorem lookup_isSome_iff_mem {k : α} {l : List (α × β)} :
    (l.lookup k).isSome ↔ k ∈ l.map Prod.fst := by
  rw [List.lookup_isSome_iff, List.mem_map]
  exact exists_congr fun p => and_congr_right fun _ => by rw [beq_iff_eq, eq_comm]

/-- **Among different keys a pair is found exactly if it is listed.** -/
theorem lookup_eq_some_iff_mem {k : α} {v : β} : ∀ {l : List (α × β)}, (l.map Prod.fst).Nodup →
    (l.lookup k = some v ↔ (k, v) ∈ l)
  | [], _ => by simp
  | (j, w) :: l, h => by
      rw [List.map_cons, List.nodup_cons] at h
      by_cases hkj : k = j
      · subst hkj
        have hnone : (k, v) ∉ l := fun hmem => h.1 (List.mem_map.2 ⟨(k, v), hmem, rfl⟩)
        rw [List.lookup_cons_self]
        simp [hnone, eq_comm]
      · rw [lookup_cons_of_ne hkj, lookup_eq_some_iff_mem h.2]
        simp [hkj]

/-- The order of pairs with different keys does not matter. -/
theorem lookup_reverse {l : List (α × β)} (h : (l.map Prod.fst).Nodup) (k : α) :
    l.reverse.lookup k = l.lookup k := by
  have hrev : (l.reverse.map Prod.fst).Nodup := by
    rw [List.map_reverse]
    exact List.nodup_reverse.2 h
  refine Option.ext fun v => ?_
  rw [lookup_eq_some_iff_mem hrev, lookup_eq_some_iff_mem h, List.mem_reverse]

end Lookup

/-! ## A table by its list -/

theorem above_some {low key : String} : Above (some low) key ↔ low < key :=
  ⟨fun h => by cases h; assumption, .over⟩

namespace Entries

/-- The keys of entries, in order. -/
def keys {floor : Option String} (entries : Entries floor) : List String :=
  entries.toList.map Prod.fst

/-- All keys stand above the floor. -/
theorem above_of_mem_keys {floor : Option String} : ∀ (entries : Entries floor) {k : String},
    k ∈ entries.keys → Above floor k
  | .nil, _, h => absurd h List.not_mem_nil
  | .cons j hj w rest, k, h => by
      rw [keys, toList, List.map_cons, List.mem_cons] at h
      rcases h with rfl | h
      · exact hj
      · exact hj.trans (above_some.1 (above_of_mem_keys rest h))

/-- **The keys ascend strictly.** -/
theorem pairwise_keys {floor : Option String} : ∀ entries : Entries floor,
    entries.keys.Pairwise (· < ·)
  | .nil => List.Pairwise.nil
  | .cons _ _ _ rest =>
      List.Pairwise.cons (fun _ hk => above_some.1 (above_of_mem_keys rest hk))
        (pairwise_keys rest)

theorem nodup_keys {floor : Option String} (entries : Entries floor) : entries.keys.Nodup :=
  (pairwise_keys entries).imp fun {j k} (hlt : j < k) (heq : j = k) =>
    String.lt_irrefl j (heq ▸ hlt)

/-- A table answers as the list of its entries does. -/
theorem get?_eq_lookup {floor : Option String} : ∀ (entries : Entries floor) (k : String),
    entries.get? k = entries.toList.lookup k
  | .nil, _ => rfl
  | .cons j _ w rest, k => by
      rw [get?, toList, get?_eq_lookup rest k]
      by_cases hkj : k = j
      · subst hkj
        rw [if_pos rfl, List.lookup_cons_self]
      · rw [if_neg hkj, lookup_cons_of_ne hkj]

theorem mem_keys_iff {floor : Option String} {entries : Entries floor} {k : String} :
    k ∈ entries.keys ↔ (entries.get? k).isSome := by
  rw [get?_eq_lookup, lookup_isSome_iff_mem, keys]

/-- Below the floor nothing is found. -/
theorem get?_eq_none_of_not_above {floor : Option String} {entries : Entries floor} {k : String}
    (h : ¬Above floor k) : entries.get? k = none := by
  rw [← Option.not_isSome_iff_eq_none, ← mem_keys_iff]
  exact fun hk => h (above_of_mem_keys entries hk)

/-- The first keys of entries that answer alike do not come one before the other. -/
theorem not_lt_of_get?_eq {floor : Option String} {j j' : String} {hj : Above floor j}
    {hj' : Above floor j'} {w w' : Value} {rest : Entries (some j)} {rest' : Entries (some j')}
    (h : (cons j hj w rest).get? j = (cons j' hj' w' rest').get? j) : ¬j < j' := by
  intro hlt
  have hne : j ≠ j' := fun heq => String.lt_irrefl _ (heq ▸ hlt)
  have hnone : rest'.get? j = none := get?_eq_none_of_not_above fun hab =>
    String.lt_irrefl _ (String.lt_trans hlt (above_some.1 hab))
  rw [get?, get?, if_pos rfl, if_neg hne, hnone] at h
  cases h

/-- **Entries that answer alike are equal.** -/
theorem ext_get? {floor : Option String} : ∀ {a b : Entries floor},
    (∀ k, a.get? k = b.get? k) → a = b
  | .nil, .nil, _ => rfl
  | .nil, .cons j _ _ _, h => by
      have hj := h j
      rw [get?, get?, if_pos rfl] at hj
      cases hj
  | .cons j _ _ _, .nil, h => by
      have hj := h j
      rw [get?, get?, if_pos rfl] at hj
      cases hj
  | .cons j hj w rest, .cons j' hj' w' rest', h => by
      have hle : j ≤ j' := String.not_lt.1 (not_lt_of_get?_eq (h j').symm)
      have hge : j' ≤ j := String.not_lt.1 (not_lt_of_get?_eq (h j))
      obtain rfl := String.le_antisymm hle hge
      have hw := h j
      rw [get?, get?, if_pos rfl, if_pos rfl] at hw
      obtain rfl := Option.some.inj hw
      have hrest : rest = rest' := ext_get? fun k => by
        by_cases hkj : k = j
        · have hab : ¬Above (some j) k := fun hab =>
            String.lt_irrefl _ (hkj ▸ above_some.1 hab)
          rw [get?_eq_none_of_not_above hab, get?_eq_none_of_not_above hab]
        · have hk := h k
          rwa [get?, get?, if_neg hkj, if_neg hkj] at hk
      rw [hrest]

end Entries

/-! ## Tables built from lists -/

namespace Table

/-- Storing the pairs of a list, one after another. -/
def insertAll (table : Table) (entries : List (String × Value)) : Table :=
  entries.foldl (fun t entry => t.insert entry.1 entry.2) table

/-- Of many insertions under one key the last answers, and in front of all the table does. -/
@[simp] theorem get?_insertAll : ∀ (entries : List (String × Value)) (table : Table) (k : String),
    (table.insertAll entries).get? k = (entries.reverse.lookup k).or (table.get? k)
  | [], table, k => by simp [insertAll]
  | (j, v) :: entries, table, k => by
      change ((table.insert j v).insertAll entries).get? k = _
      rw [get?_insertAll entries, get?_insert, List.reverse_cons, List.lookup_append,
        Option.or_assoc]
      by_cases hkj : k = j
      · subst hkj
        rw [if_pos rfl, List.lookup_cons_self, Option.some_or]
      · rw [if_neg hkj, lookup_cons_of_ne hkj, List.lookup_nil, Option.none_or]

/-- **A table of a list answers with the value that came last.** -/
@[simp] theorem get?_ofList (entries : List (String × Value)) (k : String) :
    (ofList entries).get? k = entries.reverse.lookup k := by
  rw [ofList, ← insertAll]
  simp [empty, Entries.get?]

/-- If the keys of the list differ, the table answers with what is listed. -/
theorem get?_ofList_eq_some_iff {entries : List (String × Value)} {k : String} {v : Value}
    (h : (entries.map Prod.fst).Nodup) : (ofList entries).get? k = some v ↔ (k, v) ∈ entries := by
  simp [lookup_reverse h, lookup_eq_some_iff_mem h]

theorem get?_ofList_eq_none_iff {entries : List (String × Value)} {k : String} :
    (ofList entries).get? k = none ↔ k ∉ entries.map Prod.fst := by
  rw [get?_ofList, ← Option.not_isSome_iff_eq_none, lookup_isSome_iff_mem, List.map_reverse,
    List.mem_reverse]

/-- **A table is built again from its list.** -/
@[simp] theorem ofList_toList (table : Table) : ofList table.toList = table :=
  Entries.ext_get? fun k => by
    rw [get?_ofList, lookup_reverse table.nodup_keys, Entries.get?_eq_lookup]

end Table

end FrameSchema.Wire
