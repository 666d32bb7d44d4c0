import FrameSchema.Proofs.Codec.EncodeOutcome

/-!
# Proofs/Schema/KeptDefaults — the defaults that keep what they say

Something is made of every default at every kind: a number loses the bits for which its kind has no
room, and a default of another nature gives way to zero.  What is made of it may say something else
(`Default.KeptBy`), or it may be too long to be written.  Neither happens exactly if the default
fits, and with numbers this comes down to one fact: the low bits of a number are the number itself
exactly if they have room for it (`low_bits_eq_iff`).
-/

namespace FrameSchema

namespace Wire

/-- The integer that a value is; a bit is zero or one. -/
def Value.integer? : Value → Option Int
  | octet v => some v.toNat
  | short v => some v.toNat
  | long v => some v.toNat
  | longlong v | timestamp v => some v.toNat
  | bit b => some b.toNat
  | shortstr _ | longstr _ | table _ => none

theorem exists_eq_complete_iff {written : Written} :
    (∃ octets, written = .complete octets) ↔ written.fault = none := by
  constructor
  · rintro ⟨octets, rfl⟩
    rfl
  · obtain ⟨octets, fault⟩ := written
    rintro rfl
    exact ⟨octets, rfl⟩

/-- Where lengths of four octets suffice, a value alone is written exactly if it has no text that is
too long for a length of one octet. -/
theorem exists_writeFields_singleton_iff {value : Value} (h : value.LongFits) :
    (∃ octets, writeFields [value] = .complete octets) ↔
      ∀ s ∈ value.shortTexts, s.utf8ByteSize ≤ 255 := by
  rw [exists_eq_complete_iff, writeFields,
    fault_writeFieldsAfter (List.forall_mem_singleton.2 h), List.flatMap_singleton,
    shortFault_eq_none_iff]

end Wire

namespace Schema.Default

/-- A value says what a default says: the same integer, the same truth value, the same text, or that
there are no entries. -/
inductive KeptBy : Default → Wire.Value → Prop where
  | int {v : Int64} {value : Wire.Value} (h : value.integer? = some v.toInt) : KeptBy (.int v) value
  | bool (b : Bool) : KeptBy (.bool b) (.bit b)
  | shortstr (s : String) : KeptBy (.str s) (.shortstr s)
  | longstr (s : String) : KeptBy (.str s) (.longstr s)
  | emptyTable : KeptBy .emptyTable (.table Wire.Table.empty)

theorem keptBy_int_iff {v : Int64} {value : Wire.Value} :
    KeptBy (.int v) value ↔ value.integer? = some v.toInt :=
  ⟨fun h => by cases h; assumption, .int⟩

/-! ## Numbers -/

section Numbers

variable {v : Int64}

/-- **The low bits of a number are the number itself exactly if they have room for it.** -/
theorem low_bits_eq_iff {bits : Nat} :
    ((v.toUInt64.toNat % 2 ^ bits : Nat) : Int) = v.toInt ↔ 0 ≤ v.toInt ∧ v.toInt < 2 ^ bits := by
  have hpow : ((2 ^ bits : Nat) : Int) = 2 ^ bits := by norm_cast
  constructor
  · intro h
    have hlt : v.toUInt64.toNat % 2 ^ bits < 2 ^ bits := Nat.mod_lt _ (Nat.two_pow_pos bits)
    omega
  · rintro ⟨low, high⟩
    have hn := toNat_toUInt64 low
    rw [Nat.mod_eq_of_lt (by omega)]
    omega

/-- A kind of 64 bits has room for every number that is not negative. -/
theorem toNat_toUInt64_eq_iff : (v.toUInt64.toNat : Int) = v.toInt ↔ 0 ≤ v.toInt := by
  have hbits : ((v.toUInt64.toNat % 2 ^ 64 : Nat) : Int) = v.toInt ↔ _ := low_bits_eq_iff
  rw [Nat.mod_eq_of_lt v.toUInt64.toNat_lt] at hbits
  rw [hbits, and_iff_left (Int.lt_trans v.toInt_lt (by decide))]

/-- A set bit is one, so a bit keeps zero and one only. -/
theorem toNat_bne_zero_eq_iff : ((v != 0).toNat : Int) = v.toInt ↔ v.toInt = 0 ∨ v.toInt = 1 := by
  by_cases h : v = 0
  · subst h
    decide
  · have hne : v.toInt ≠ 0 := fun h0 => h (Int64.toInt_inj.1 (h0.trans Int64.toInt_zero.symm))
    rw [bne_iff_ne.2 h, or_iff_right hne]
    exact eq_comm

/-- **A number suits a kind exactly if it is kept at that kind.** -/
theorem suits_int_iff (p : Primitive) :
    Suits (.int v) p ↔ (Default.value (.int v) p).integer? = some v.toInt := by
  cases p with
  | octet =>
    change _ ↔ some (v.toUInt64.toUInt8.toNat : Int) = _
    rw [Option.some.injEq, UInt64.toNat_toUInt8, low_bits_eq_iff]
    exact ⟨fun | .octet low high => ⟨low, high⟩, fun ⟨low, high⟩ => .octet low high⟩
  | short =>
    change _ ↔ some (v.toUInt64.toUInt16.toNat : Int) = _
    rw [Option.some.injEq, UInt64.toNat_toUInt16, low_bits_eq_iff]
    exact ⟨fun | .short low high => ⟨low, high⟩, fun ⟨low, high⟩ => .short low high⟩
  | long =>
    change _ ↔ some (v.toUInt64.toUInt32.toNat : Int) = _
    rw [Option.some.injEq, UInt64.toNat_toUInt32, low_bits_eq_iff]
    exact ⟨fun | .long low high => ⟨low, high⟩, fun ⟨low, high⟩ => .long low high⟩
  | longlong =>
    change _ ↔ some (v.toUInt64.toNat : Int) = _
    rw [Option.some.injEq, toNat_toUInt64_eq_iff]
    exact ⟨fun | .longlong low => low, .longlong⟩
  | timestamp =>
    change _ ↔ some (v.toUInt64.toNat : Int) = _
    rw [Option.some.injEq, toNat_toUInt64_eq_iff]
    exact ⟨fun | .timestamp low => low, .timestamp⟩
  | bit =>
    change _ ↔ some ((v != 0).toNat : Int) = _
    rw [Option.some.injEq, toNat_bne_zero_eq_iff]
    exact ⟨fun | .bit h => h, .bit⟩
  | shortstr | longstr | table => exact ⟨nofun, nofun⟩

end Numbers

/-! ## Defaults of all natures -/

/-- **A default that suits a kind is kept at that kind.** -/
theorem keptBy_value_of_suits {d : Default} {p : Primitive} (h : d.Suits p) :
    d.KeptBy (d.value p) := by
  cases d with
  | int v => exact .int ((suits_int_iff p).1 h)
  | bool b =>
    cases h
    exact .bool b
  | str s =>
    cases h with
    | shortstr => exact .shortstr s
    | longstr => exact .longstr s
  | emptyTable =>
    cases h
    exact .emptyTable

/-- A default that is kept, and whose value can be written, suits the kind. -/
theorem suits_of_keptBy_value {d : Default} {p : Primitive} (h : d.KeptBy (d.value p))
    (hshort : ∀ s ∈ (d.value p).shortTexts, s.utf8ByteSize ≤ 255) : d.Suits p := by
  cases d with
  | int v => exact (suits_int_iff p).2 (keptBy_int_iff.1 h)
  | bool b =>
    cases p with
    | bit => exact .truth b
    | _ => nomatch h
  | str s =>
    cases p with
    | shortstr => exact .shortstr (hshort s List.mem_cons_self)
    | longstr => exact .longstr s
    | _ => nomatch h
  | emptyTable =>
    cases p with
    | table => exact .table
    | _ => nomatch h

/-- Only the text of a default can be long. -/
theorem longFits_value {d : Default} (h : ∀ s, d = .str s → s.utf8ByteSize < 2 ^ 32)
    (p : Primitive) : (d.value p).LongFits := by
  cases p with
  | longstr =>
    cases d with
    | str s => exact List.forall_mem_singleton.2 (h s rfl)
    | _ => exact List.forall_mem_singleton.2 (by decide)
  | table =>
    cases d with
    | _ => exact List.forall_mem_singleton.2 (by decide)
  | _ => cases d with
    | _ => exact fun _ hn => nomatch hn

/-- **A default fits a kind exactly if nothing of it is lost**: its value is of that kind, says what
the default says, and can be written.  So no argument of a schema has a default that is cut down or
replaced by zero. -/
theorem fits_iff_kept :
    (∀ (d : Default) (p : Primitive), (∀ s, d = .str s → s.utf8ByteSize < 2 ^ 32) →
      (d.fits p ↔ (d.value p).primitive = p ∧ d.KeptBy (d.value p) ∧
        ∃ octets, Wire.writeFields [d.value p] = .complete octets)) ∧
    ∀ schema : Schema, ∀ c ∈ schema.classes, ∀ m ∈ c.methods, ∀ a ∈ m.arguments,
      ∀ d ∈ a.default, ∃ p, schema.resolve a = .ok p ∧ (d.value p).primitive = p ∧
        d.KeptBy (d.value p) := by
  refine ⟨fun d p hsize => ?_, fun schema c hc m hm a ha d hd => ?_⟩
  · rw [Wire.exists_writeFields_singleton_iff (longFits_value hsize p), fits_iff_suits]
    constructor
    · intro h
      exact ⟨primitive_value d p, keptBy_value_of_suits h,
        Wire.shortFault_eq_none_iff.1 (shortFault_value (fits_of_suits h))⟩
    · rintro ⟨-, hkept, hshort⟩
      exact suits_of_keptBy_value hkept hshort
  · obtain ⟨p, hp, hfits⟩ := schema.wellFormed.arguments c hc m hm a ha
    exact ⟨p, hp, primitive_value d p, keptBy_value_of_suits (suits_of_fits (hfits d hd))⟩

/-- The largest octet is kept, and the number above it, of which nothing would be left, is not.  The
ticket of a declaration is sent as the zero that its schema declares. -/
theorem ticket_kept :
    (∃ octets, Wire.writeFields [(int 255).value .octet] = .complete octets) ∧
    (int 256).value .octet = .octet 0 ∧ ¬(int 256).KeptBy ((int 256).value .octet) ∧
    ∃ p, queue.resolve ⟨"ticket", .explicit .short, some (.int 0)⟩ = .ok p ∧
      (int 0).KeptBy ((int 0).value p) := by
  obtain ⟨hfits, hschema⟩ := fits_iff_kept
  obtain ⟨-, -, hwritten⟩ := (hfits (.int 255) .octet nofun).1 (by decide)
  obtain ⟨p, hp, -, hkept⟩ := hschema queue queueClass List.mem_cons_self declare
    List.mem_cons_self _ List.mem_cons_self (.int 0) rfl
  refine ⟨hwritten, rfl, fun h => ?_, p, hp, hkept⟩
  exact absurd ((hfits (.int 256) .octet nofun).2 ⟨rfl, h, _, rfl⟩) (by decide)

end Schema.Default

end FrameSchema
