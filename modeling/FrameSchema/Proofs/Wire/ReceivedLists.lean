import FrameSchema.Proofs.Wire.DepthLimit
import FrameSchema.Proofs.Wire.Reencoding

/-!
# Proofs/Wire/ReceivedLists — a field list that was read can be written, and is read again

A list takes no more octets when it is written than it took when it was read: its values do not, and
a packed octet is written only where one was read (`yields_readFieldsAfter`).  Presence flags are
another matter, since more of them may be received than there are fields, or fewer; what stands
behind them does not grow (`yields_readPresent`).  With the round trips of the two kinds of list,
what is written is read as the same values (`read_values_rewritable`).
-/

namespace FrameSchema.Wire

/-- The writer is not stopped, and appends at most `room` octets. -/
def Written.CompletesIn (written : Written) (room : Nat) : Prop :=
  ∃ octets, written = .complete octets ∧ octets.length ≤ room

/-- Octets in front take their own room. -/
theorem Written.CompletesIn.after {written : Written} {room : Nat} (h : written.CompletesIn room)
    (octets : Octets) : (Written.after octets written).CompletesIn (octets.length + room) := by
  obtain ⟨t, rfl, ht⟩ := h
  exact ⟨octets ++ t, rfl, by rw [List.length_append]; omega⟩

theorem Written.CompletesIn.mono {written : Written} {room room' : Nat}
    (h : written.CompletesIn room) (hle : room ≤ room') : written.CompletesIn room' := by
  obtain ⟨octets, hoctets, hlength⟩ := h
  exact ⟨octets, hoctets, hlength.trans hle⟩

/-- One value for each kind, of that kind and within the bounds. -/
abbrev BoundedOfKinds (kinds : List Primitive) (values : List Value) : Prop :=
  List.Forall₂ (fun kind v => v.primitive = kind ∧ v.Bounded) kinds values

/-- One optional value for each kind, of that kind and within the bounds where it is present. -/
abbrev BoundedPresent (kinds : List Primitive) (values : List (Option Value)) : Prop :=
  List.Forall₂ (fun kind value => ∀ v ∈ value, v.primitive = kind ∧ v.Bounded) kinds values

/-! ## Field lists -/

namespace BitCursor

/-- An octet is taken for the first of eight bits, and for no other. -/
theorem yields_advance {cursor : BitCursor} (h : cursor.taken ≤ 8) :
    Yields cursor.advance fun s next =>
      next.taken = cursor.taken % 8 ∧ s.length = if cursor.taken % 8 = 0 then 1 else 0 := by
  rw [advance]
  split
  case isTrue hused =>
    have htaken : cursor.taken % 8 = 0 := by omega
    refine yields_readOctet.map fun s octet hs => ?_
    simp [htaken, ← hs]
  case isFalse hopen =>
    refine .pure ⟨by omega, ?_⟩
    rw [if_neg (by omega)]
    rfl

end BitCursor

namespace PendingBits

theorem length_flush (pending : PendingBits) :
    pending.flush.length = if pending.count = 0 then 0 else 1 := by
  rw [flush]
  split
  · rfl
  · rfl

@[simp] theorem length_flush_push (pending : PendingBits) (b : Bool) :
    (pending.push b).flush.length = 1 := by
  rw [length_flush, if_neg]
  exact Nat.succ_ne_zero pending.count

/-- The bits that still wait when another one comes: none if they fill their octet. -/
def carried (pending : PendingBits) : PendingBits := if pending.count = 8 then .none else pending

/-- Bits are carried over unless they fill their octet. -/
theorem count_carried {pending : PendingBits} (h : pending.count ≤ 8) :
    pending.carried.count = pending.count % 8 := by
  rw [carried]
  split
  case isTrue hfull => rw [hfull]; rfl
  case isFalse hfull => omega

end PendingBits

/-- A bit asks for an octet exactly where the reader takes one for it. -/
theorem completesIn_bit {pending : PendingBits} {b : Bool} {values : List Value} {room : Nat}
    (h : (writeFieldsAfter (pending.carried.push b) values).CompletesIn (1 + room)) :
    (writeFieldsAfter pending (.bit b :: values)).CompletesIn
      (pending.flush.length + ((if pending.count % 8 = 0 then 1 else 0) + room)) := by
  rw [PendingBits.carried] at h
  rw [writeFieldsAfter]
  by_cases hfull : pending.count = 8
  · -- The octet of the waiting bits goes out, and the bit opens the next one.
    rw [if_pos hfull] at h ⊢
    rw [hfull]
    exact h.after pending.flush
  · rw [if_neg hfull] at h ⊢
    refine h.mono ?_
    rw [PendingBits.length_flush]
    split <;> split <;> omega

/-- Whatever is read behind an octet of bits is written behind as many waiting bits, in no more
octets than were read; the octet of the waiting bits comes on top. -/
theorem yields_readFieldsAfter : ∀ (kinds : List Primitive) (cursor : BitCursor)
    (pending : PendingBits), cursor.taken ≤ 8 → pending.count = cursor.taken →
      Yields (readFieldsAfter cursor kinds) fun s values =>
        BoundedOfKinds kinds values ∧
          (writeFieldsAfter pending values).CompletesIn (pending.flush.length + s.length)
  | [], cursor, pending, _, _ => .pure ⟨.nil, pending.flush, rfl, le_rfl⟩
  | kind :: kinds, cursor, pending, htaken, hcount => by
      by_cases hbit : kind = .bit
      · subst hbit
        rw [readFieldsAfter]
        refine (BitCursor.yields_advance htaken).bind fun s next hadvance => ?_
        obtain ⟨hnext, hs⟩ := hadvance
        rw [← hcount] at htaken hnext hs
        have hopen : next.taken + 1 ≤ 8 := by omega
        have hcarried : (pending.carried.push next.bit).count = next.taken + 1 := by
          rw [hnext, ← PendingBits.count_carried htaken]
          rfl
        have hrest := yields_readFieldsAfter kinds ⟨next.octet, next.taken + 1⟩
          (pending.carried.push next.bit) hopen hcarried
        refine hrest.map fun t values hread => ?_
        obtain ⟨hvalues, hwritten⟩ := hread
        refine ⟨.cons ⟨rfl, Value.bounded_bit _⟩ hvalues, ?_⟩
        rw [PendingBits.length_flush_push] at hwritten
        rw [List.length_append, hs]
        exact completesIn_bit hwritten
      · rw [readFieldsAfter_cons hbit]
        refine ((yields_readValue maxTableDepth kind).and_gives (gives_readValue _ kind)).bind
          fun s value hread => ?_
        obtain ⟨hvalue, hkind⟩ := hread
        obtain ⟨v, hv, hlength⟩ := hvalue.fits
        have hrest := yields_readFieldsAfter kinds .none .none (Nat.zero_le 8) rfl
        refine hrest.map fun t values hread => ?_
        obtain ⟨hvalues, w, hw, hle⟩ := hread
        refine ⟨.cons ⟨hkind, hvalue.bounded⟩ hvalues, _,
          (writeFieldsAfter_cons_eq_complete_iff (hkind ▸ hbit)).2 ⟨v, w, hv, hw, rfl⟩, ?_⟩
        have hnone : PendingBits.none.flush.length = 0 := rfl
        simp only [List.length_append]
        omega

/-! ## Optional field lists -/

/-- **The flags are those of the run of words that was read.** -/
theorem yields_readFlags : ∀ budget : Nat,
    Yields (readFlags budget) fun s flags => ∃ words, FlagRun words flags ∧ flagOctets words = s
  | 0 => .throw
  | budget + 1 => by
      rw [readFlags]
      refine yields_readShort.bind fun s word hs => ?_
      split
      case isTrue hlast =>
        refine .pure ⟨[word], .last (word_and_one_eq_zero_iff.1 hlast), ?_⟩
        rw [flagOctets, List.flatMap_singleton, hs, List.append_nil]
      case isFalse hmore =>
        refine (yields_readFlags budget).map fun t flags hread => ?_
        obtain ⟨words, hrun, ht⟩ := hread
        refine ⟨word :: words, .more ?_ hrun, ?_⟩
        · rwa [word_and_one_eq_zero_iff, Bool.not_eq_false] at hmore
        · rw [flagOctets, List.flatMap_cons, hs, ← flagOctets, ht]

/-- The present values are written in no more octets than they were read from. -/
theorem yields_readPresent : ∀ (present : List Bool) (kinds : List Primitive),
    Yields (readPresent present kinds) fun s values =>
      BoundedPresent kinds values ∧ (writeValues (values.filterMap id)).CompletesIn s.length
  | _, [] => .pure ⟨.nil, [], rfl, le_rfl⟩
  | [], _ :: kinds => (yields_readPresent [] kinds).map fun _ _ hread =>
      ⟨.cons (by simp) hread.1, hread.2⟩
  | false :: present, _ :: kinds => (yields_readPresent present kinds).map fun _ _ hread =>
      ⟨.cons (by simp) hread.1, hread.2⟩
  | true :: present, kind :: kinds => by
      rw [readPresent]
      refine ((yields_readValue maxTableDepth kind).and_gives (gives_readValue _ kind)).bind
        fun s value hread => (yields_readPresent present kinds).map fun t values hrest => ?_
      obtain ⟨hvalue, hkind⟩ := hread
      obtain ⟨hvalues, w, hw, hle⟩ := hrest
      refine ⟨.cons ?_ hvalues, ?_⟩
      · exact fun v hv => Option.some.inj hv ▸ ⟨hkind, hvalue.bounded⟩
      · obtain ⟨v, hv, hlength⟩ := hvalue.fits
        refine ⟨v ++ w, writeValues_cons_eq_complete_iff.2 ⟨v, w, hv, hw, rfl⟩, ?_⟩
        rw [List.length_append, List.length_append]
        exact Nat.add_le_add hlength hle

/-- **What is present is what was flagged.** -/
theorem gives_readPresent_isSome : ∀ (present : List Bool) (kinds : List Primitive),
    Gives (readPresent present kinds)
      (·.map Option.isSome = present.takeD kinds.length false)
  | _, [] => .pure rfl
  | [], _ :: kinds => (gives_readPresent_isSome [] kinds).bind fun _ h =>
      .pure (congrArg (false :: ·) h)
  | false :: present, _ :: kinds => (gives_readPresent_isSome present kinds).bind fun _ h =>
      .pure (congrArg (false :: ·) h)
  | true :: present, _ :: kinds =>
      .after fun _ => (gives_readPresent_isSome present kinds).bind fun _ h =>
        .pure (congrArg (true :: ·) h)

/-! ## Received lists -/

/-- **A field list is written again in no more octets than it was read from.** -/
theorem yields_readFields (kinds : List Primitive) : Yields (readFields kinds) fun s values =>
    BoundedOfKinds kinds values ∧ (writeFields values).CompletesIn s.length :=
  (yields_readFieldsAfter kinds .none .none (Nat.zero_le 8) rfl).imp
    fun s _ ⟨hvalues, hwritten⟩ => ⟨hvalues, hwritten.mono (Nat.le_of_eq (Nat.zero_add s.length))⟩

/-- **Present values are written again in no more octets than stood behind their flags.** -/
theorem yields_readOptionalFields (kinds : List Primitive) :
    Yields (readOptionalFields kinds) fun s values => ∃ words flags back,
      FlagRun words flags ∧ flagOctets words ++ back = s ∧
      values.map Option.isSome = flags.takeD kinds.length false ∧
      BoundedPresent kinds values ∧
        (writeValues (values.filterMap id)).CompletesIn back.length := by
  refine .get fun r => (yields_readFlags _).bind fun s flags ⟨words, hrun, hs⟩ => ?_
  have hread := (yields_readPresent flags kinds).and_gives (gives_readPresent_isSome flags kinds)
  exact hread.imp fun back values ⟨⟨hvalues, hwritten⟩, hpresent⟩ =>
    ⟨words, flags, back, hrun, hs ▸ rfl, hpresent, hvalues, hwritten⟩

/-- Bounded values that were written are read back. -/
theorem BoundedOfKinds.reads {kinds : List Primitive} {values : List Value} {octets : Octets}
    (hvalues : BoundedOfKinds kinds values) (h : writeFields values = .complete octets) :
    Reads (readFields kinds) octets values := by
  have hkinds : kinds = values.map Value.primitive := by
    rw [← List.map_id kinds, ← forall₂_eq_iff]
    exact hvalues.imp fun _ _ hv => hv.1.symm
  rw [hkinds]
  refine reads_writeFields (fun v hv => ?_) h
  obtain ⟨kind, hpair⟩ := exists_mem_zip_right hvalues.length_eq hv
  exact (List.forall₂_zip hvalues hpair).2.depth

/-- Bounded optional values that were written are read back. -/
theorem BoundedPresent.reads {kinds : List Primitive} {values : List (Option Value)}
    {octets : Octets} (hvalues : BoundedPresent kinds values)
    (h : writeOptionalFields values = .complete octets) :
    Reads (readOptionalFields kinds) octets values := by
  refine reads_writeOptionalFields (hvalues.imp fun _ _ hvalue v hv => (hvalue v hv).1)
    (fun value hvalue v hv => ?_) h
  obtain ⟨kind, hpair⟩ := exists_mem_zip_right hvalues.length_eq hvalue
  exact (List.forall₂_zip hvalues hpair v hv).2.depth

/-- What was taken of an input stands where the operation started. -/
theorem Yields.of_seek {α : Type} {read : Read α} {P : Octets → α → Prop} (h : Yields read P)
    {input : Octets} {start : Nat} {a : α} {r : Reader}
    (hok : read (.seek input start) = .ok a r) :
    ∃ octets, octets <+: input.drop start ∧ r = .seek input (start + octets.length) ∧
      P octets a := by
  obtain ⟨octets, rest, hinput, hr, ha⟩ := h _ _ a r hok
  refine ⟨octets, ⟨rest, hinput.symm⟩, ?_, ha⟩
  rw [hr, Reader.seek, ← List.drop_drop, hinput, List.drop_left]

theorem Reads.ofOctets {α : Type} {read : Read α} {octets : Octets} {a : α}
    (h : Reads read octets a) : read (.ofOctets octets) = .ok a ⟨octets.length, []⟩ := by
  have hread := h 0 []
  rwa [List.append_nil, Nat.zero_add] at hread

/-- **Whatever was read can be written again, and is then read again.**  If a field list is read
anywhere in an input, whatever octets stand there, then it has one value for each kind, of that kind
and within the bounds; it can be written in at most as many octets as were read; and what is written
is read, up to its end, as the same values.  If an optional field list is read, then each value
that was flagged is present and no other; the same holds of the values that are present; and the
octets written behind the flag words are at most as many as were read behind the flag words. -/
theorem read_values_rewritable (input : Octets) (start : Nat) (kinds : List Primitive) :
    (∀ values r, readFields kinds (.seek input start) = .ok values r →
      ∃ octets, octets <+: input.drop start ∧ r = .seek input (start + octets.length) ∧
        List.Forall₂ (fun kind v => v.primitive = kind ∧ v.Bounded) kinds values ∧
        ∃ written, writeFields values = .complete written ∧ written.length ≤ octets.length ∧
          readFields kinds (.ofOctets written) = .ok values ⟨written.length, []⟩) ∧
    ∀ values r, readOptionalFields kinds (.seek input start) = .ok values r →
      ∃ words flags back, FlagRun words flags ∧ flagOctets words ++ back <+: input.drop start ∧
        r = .seek input (start + (flagOctets words ++ back).length) ∧
        values.map Option.isSome = flags.takeD kinds.length false ∧
        List.Forall₂ (fun kind value => ∀ v ∈ value, v.primitive = kind ∧ v.Bounded)
          kinds values ∧
        ∃ body written, written = flagOctets (flagWords (values.map Option.isSome)) ++ body ∧
          writeOptionalFields values = .complete written ∧ body.length ≤ back.length ∧
          readOptionalFields kinds (.ofOctets written) = .ok values ⟨written.length, []⟩ := by
  constructor
  · intro values r hok
    obtain ⟨octets, hprefix, hr, hvalues, written, hwritten, hlength⟩ :=
      (yields_readFields kinds).of_seek hok
    exact ⟨octets, hprefix, hr, hvalues, written, hwritten, hlength,
      (hvalues.reads hwritten).ofOctets⟩
  · intro values r hok
    obtain ⟨_, hprefix, hr, words, flags, back, hrun, rfl, hpresent, hvalues, body, hbody,
      hlength⟩ := (yields_readOptionalFields kinds).of_seek hok
    have hwritten := writeOptionalFields_eq_complete_iff.2 ⟨body, hbody, rfl⟩
    exact ⟨words, flags, back, hrun, hprefix, hr, hpresent, hvalues, body, _, rfl, hwritten,
      hlength, (hvalues.reads hwritten).ofOctets⟩

/-- Behind an octet stand two bits with others above them, a table whose keys are neither in order
nor distinct, and a last bit. -/
def lenientFields : Octets :=
  [9, 253, 0, 0, 0, 12, 1, 98, 66, 1, 1, 97, 116, 7, 1, 98, 66, 2, 2, 5]

/-- Behind an octet stand two flag words, which tell of more than two fields, and two values. -/
def lenientPresent : Octets := [9, 224, 1, 128, 0, 7, 255, 5]

/-- Eighteen octets are read, and fourteen written and read again; of the second input six octets
are read, and four written. -/
theorem read_lenient_rewritable :
    (∃ values written, readFields [.bit, .bit, .table, .bit] (.seek lenientFields 1)
        = .ok values (.seek lenientFields 19) ∧
      writeFields values = .complete written ∧ written.length = 14 ∧
      readFields [.bit, .bit, .table, .bit] (.ofOctets written)
        = .ok values ⟨written.length, []⟩) ∧
    ∃ values written, readOptionalFields [.octet, .bit] (.seek lenientPresent 1)
        = .ok values (.seek lenientPresent 7) ∧
      writeOptionalFields values = .complete written ∧ written.length = 4 ∧
      readOptionalFields [.octet, .bit] (.ofOctets written) = .ok values ⟨written.length, []⟩ := by
  constructor
  · let values : List Value := [.bit true, .bit false,
      .table (Table.ofList [("a", .bit true), ("b", .octet 2)]), .bit false]
    have hread : readFields [.bit, .bit, .table, .bit] (.seek lenientFields 1)
        = .ok values (.seek lenientFields 19) := by decide +kernel
    obtain ⟨_, -, -, -, written, hwritten, -, hagain⟩ :=
      (read_values_rewritable lenientFields 1 [.bit, .bit, .table, .bit]).1 values _ hread
    have hlength : (writeFields values).octets.length = 14 := by decide +kernel
    rw [hwritten] at hlength
    exact ⟨values, written, hread, hwritten, hlength, hagain⟩
  · let values : List (Option Value) := [some (.octet 7), some (.bit true)]
    have hread : readOptionalFields [.octet, .bit] (.seek lenientPresent 1)
        = .ok values (.seek lenientPresent 7) := by decide +kernel
    obtain ⟨_, _, _, -, -, -, -, -, _, written, -, hwritten, -, hagain⟩ :=
      (read_values_rewritable lenientPresent 1 [.octet, .bit]).2 values _ hread
    have hlength : (writeOptionalFields values).octets.length = 4 := by decide +kernel
    rw [hwritten] at hlength
    exact ⟨values, written, hread, hwritten, hlength, hagain⟩

end FrameSchema.Wire
