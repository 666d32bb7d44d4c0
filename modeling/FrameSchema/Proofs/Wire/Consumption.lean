import FrameSchema.Proofs.Wire.Typed

/-!
# Proofs/Wire/Consumption — what an operation took off its input

`Reads` tells what is read from octets that a writer put there.  `Yields read P` starts from the
other end, at any input whatever: if `read` succeeds then it has taken some octets off the front,
and `P` relates these to the result.  The numbers and texts that frames are made of are exactly what
the octets taken are the writing of.  A relation that covers what is written, and the entries and
bits that no writer would put so, covers whatever is read as a value (`CoversReading`).
-/

namespace FrameSchema

namespace Octets

/-- What was there before the digits is what stands above them. -/
theorem foldl_div : ∀ (octets : Octets) (a : Nat),
    octets.foldl (fun n octet => n * 256 + octet.toNat) a / 256 ^ octets.length = a
  | [], a => by rw [List.foldl_nil, List.length_nil, Nat.pow_zero, Nat.div_one]
  | octet :: octets, a => by
      have hlt : octet.toNat < 256 := octet.toNat_lt
      rw [List.foldl_cons, List.length_cons, Nat.pow_succ, ← Nat.div_div_eq_div_mul,
        foldl_div octets]
      omega

/-- So many octets write a number of that width. -/
theorem toNat_lt (octets : Octets) : toNat octets < 256 ^ octets.length := by
  have hdiv : toNat octets / 256 ^ octets.length = 0 := foldl_div octets 0
  exact (Nat.div_eq_zero_iff_lt (Nat.pow_pos (by decide))).1 hdiv

/-- Whatever was read before them, octets are the last digits of what is read with them. -/
theorem bigEndian_foldl : ∀ (octets : Octets) (a : Nat),
    bigEndian octets.length (octets.foldl (fun n octet => n * 256 + octet.toNat) a) = octets
  | [], _ => rfl
  | octet :: octets, a => by
      have hfirst : UInt8.ofNat (a * 256 + octet.toNat) = octet := by
        refine UInt8.toNat_inj.1 ?_
        have hlt : octet.toNat < 256 := octet.toNat_lt
        rw [UInt8.toNat_ofNat']
        omega
      rw [List.foldl_cons, List.length_cons, bigEndian, bigEndian_foldl octets,
        Nat.shiftRight_eq_div_pow, Nat.pow_mul, show 2 ^ 8 = 256 from rfl, foldl_div octets, hfirst]

/-- **The number that octets write is written by these octets.** -/
theorem bigEndian_toNat (octets : Octets) : bigEndian octets.length (toNat octets) = octets :=
  bigEndian_foldl octets 0

end Octets

namespace Wire

variable {α β : Type}

/-- Whenever the operation succeeds it has taken octets off the front of its input, moved on by
their number, and given a result that has the property together with them. -/
def Yields (read : Read α) (P : Octets → α → Prop) : Prop :=
  ∀ (position : Nat) (input : Octets) (a : α) (r : Reader), read ⟨position, input⟩ = .ok a r →
    ∃ octets rest, input = octets ++ rest ∧ r = ⟨position + octets.length, rest⟩ ∧ P octets a

namespace Yields

variable {P P' : Octets → α → Prop} {Q : Octets → β → Prop} {x : Read α} {f : α → Read β}

theorem pure {a : α} (h : P [] a) : Yields (Pure.pure a) P := by
  intro position input b r hok
  obtain ⟨rfl, rfl⟩ := EStateM.Result.ok.inj hok
  exact ⟨[], input, rfl, rfl, h⟩

theorem throw {cause : Error} : Yields (throw cause) P := fun _ _ _ _ hok => nomatch hok

/-- **A sequence takes what its steps take, one behind the other.** -/
theorem bind (hx : Yields x P) (hf : ∀ s a, P s a → Yields (f a) fun t b => Q (s ++ t) b) :
    Yields (x >>= f) Q := by
  intro position input b r hok
  obtain ⟨a, r₁, hxr, hok⟩ := bind_eq_ok hok
  obtain ⟨s, rest, rfl, rfl, ha⟩ := hx position input a r₁ hxr
  obtain ⟨t, rest, rfl, rfl, hb⟩ := hf s a ha _ rest b r hok
  exact ⟨s ++ t, rest, (List.append_assoc ..).symm, by simp [Nat.add_assoc], hb⟩

/-- A step that takes nothing finishes what another has taken. -/
theorem map {g : α → β} (hx : Yields x P) (hg : ∀ s a, P s a → Q s (g a)) :
    Yields (x >>= fun a => Pure.pure (g a)) Q :=
  hx.bind fun s a ha => .pure (by simpa using hg s a ha)

theorem imp (hx : Yields x P) (h : ∀ s a, P s a → P' s a) : Yields x P' := by
  intro position input a r hok
  obtain ⟨s, rest, hinput, hr, ha⟩ := hx position input a r hok
  exact ⟨s, rest, hinput, hr, h s a ha⟩

/-- What is known of every result joins what the octets tell. -/
theorem and_gives {G : α → Prop} (hx : Yields x P) (hgives : Gives x G) :
    Yields x fun s a => P s a ∧ G a := by
  intro position input a r hok
  obtain ⟨s, rest, hinput, hr, ha⟩ := hx position input a r hok
  exact ⟨s, rest, hinput, hr, ha, hgives _ a r hok⟩

/-- A property of the result alone needs no octets. -/
theorem gives {G : α → Prop} (hx : Yields x P) (h : ∀ s a, P s a → G a) : Gives x G := by
  intro r a r' hok
  obtain ⟨s, -, -, -, ha⟩ := hx r.position r.rest a r' hok
  exact h s a ha

/-- Looking at the cursor takes nothing. -/
theorem get {f : Reader → Read β} (hf : ∀ r, Yields (f r) Q) :
    Yields (MonadState.get >>= f) Q := by
  intro position input b r hok
  rw [get_bind] at hok
  exact hf _ position input b r hok

end Yields

/-! ## Numbers and texts -/

/-- So many octets as were asked for are taken, and they are the result. -/
theorem yields_readExactly (count : Nat) :
    Yields (readExactly count) fun s octets => octets = s ∧ s.length = count := by
  intro position input octets r hok
  by_cases hcount : (input.take count).length = count
  · rw [readExactly, if_pos hcount] at hok
    obtain ⟨rfl, rfl⟩ := EStateM.Result.ok.inj hok
    exact ⟨_, _, (List.take_append_drop count input).symm, rfl, rfl, hcount⟩
  · rw [readExactly, if_neg hcount] at hok
    cases hok

/-- **A number is what the octets taken write**, and no larger than their width allows. -/
theorem yields_readNat (width : Nat) :
    Yields (readNat width) fun s n => Octets.bigEndian width n = s ∧ n < 256 ^ width :=
  (yields_readExactly width).map fun s octets h => by
    obtain ⟨rfl, rfl⟩ := h
    exact ⟨Octets.bigEndian_toNat octets, Octets.toNat_lt octets⟩

/-- A number of some type is written by the octets taken, if the type has room for so wide a one. -/
theorem yields_number {width : Nat} {ofNat : Nat → α} {toNat : α → Nat}
    (h : ∀ n < 256 ^ width, toNat (ofNat n) = n) :
    Yields (readNat width >>= fun n => Pure.pure (ofNat n)) fun s v =>
      Octets.bigEndian width (toNat v) = s :=
  (yields_readNat width).map fun _ n hn => by rw [h n hn.2]; exact hn.1

theorem yields_readOctet : Yields readOctet fun s v => Octets.bigEndian 1 v.toNat = s :=
  yields_number fun _ => UInt8.toNat_ofNat_of_lt'

theorem yields_readShort : Yields readShort fun s v => Octets.bigEndian 2 v.toNat = s :=
  yields_number fun _ => UInt16.toNat_ofNat_of_lt'

theorem yields_readLong : Yields readLong fun s v => Octets.bigEndian 4 v.toNat = s :=
  yields_number fun _ => UInt32.toNat_ofNat_of_lt'

theorem yields_readLonglong : Yields readLonglong fun s v => Octets.bigEndian 8 v.toNat = s :=
  yields_number fun _ => UInt64.toNat_ofNat_of_lt'

/-- A check takes nothing. -/
theorem yields_checkLength (count : Nat) : Yields (checkLength count) fun s _ => s = [] := by
  intro position input a r hok
  rw [checkLength] at hok
  split at hok
  · obtain ⟨-, rfl⟩ := EStateM.Result.ok.inj hok
    exact ⟨[], input, rfl, rfl, rfl⟩
  · cases hok

/-- The octets taken are those of the text, as many as were announced. -/
theorem yields_readText (count : Nat) :
    Yields (readText count) fun s text => Octets.ofText text = s ∧ s.length = count := by
  refine (yields_checkLength count).bind fun s₁ _ hs₁ => (yields_readExactly count).bind
    fun s octets h => ?_
  obtain ⟨rfl, rfl⟩ := h
  subst hs₁
  cases htext : Octets.toText? octets with
  | none => exact .throw
  | some text =>
    obtain rfl := Octets.toText?_eq_some_iff.1 htext
    exact .pure (by simp)

/-- The octets taken are the writing of the short text. -/
theorem yields_readShortString :
    Yields readShortString fun s text => encodeShortString text = .ok s :=
  (yields_readNat 1).bind fun _ n hn => (yields_readText n).imp fun _ _ h => by
    obtain ⟨rfl, rfl⟩ := h
    exact encodeShortString_eq_ok_iff.2 ⟨hn.2, hn.1 ▸ rfl⟩

theorem yields_readLongString :
    Yields readLongString fun s text =>
      encodeLong .longStringTooLong (Octets.ofText text) = .ok s :=
  (yields_readNat 4).bind fun _ n hn => (yields_readText n).imp fun _ _ h => by
    obtain ⟨rfl, rfl⟩ := h
    exact encodeLong_eq_ok_iff.2 ⟨hn.2, hn.1 ▸ rfl⟩

/-- The octet taken is the tag of the kind. -/
theorem yields_readTag : Yields readTag fun s kind => s = [kind.tag] := by
  refine yields_readOctet.bind fun s tag hs => ?_
  cases hkind : Primitive.ofTag? tag with
  | none => exact .throw
  | some kind =>
    have htag : kind.tag = tag := by simpa using List.find?_some hkind
    exact .pure (by simp [← hs, htag])

/-! ## Tables -/

/-- What is read of a table is its length, and entries up to exactly the end that this tells. -/
theorem exists_readEntries_of_readTable {nested : Primitive → Read Value} {position : Nat}
    {input : Octets} {table : Table} {r : Reader}
    (hok : readTable nested ⟨position, input⟩ = .ok table r) :
    ∃ length rest, input = Octets.bigEndian 4 length ++ rest ∧ length < UInt32.size ∧
      readEntries nested (position + 4 + length) length .empty ⟨position + 4, rest⟩
        = .ok table r ∧
      r.position = position + 4 + length := by
  obtain ⟨length, r₁, hlength, hok⟩ := bind_eq_ok hok
  obtain ⟨_, rest, rfl, rfl, rfl, hlt⟩ := yields_readNat 4 _ _ _ _ hlength
  obtain ⟨_, r₂, hcheck, hok⟩ := bind_eq_ok hok
  obtain ⟨_, rest, rfl, rfl, rfl⟩ := yields_checkLength length _ _ _ _ hcheck
  rw [get_bind] at hok
  obtain ⟨table', r₃, hentries, hok⟩ := bind_eq_ok hok
  rw [get_bind] at hok
  split at hok
  case isTrue hstop =>
    obtain ⟨rfl, rfl⟩ := EStateM.Result.ok.inj hok
    exact ⟨length, rest, rfl, hlt, hentries, hstop⟩
  case isFalse => cases hok

/-- A table takes the number of octets that its entries take, and then these. -/
theorem yields_readTable_of_readEntries {nested : Primitive → Read Value}
    {Q : Octets → Table → Prop}
    (hentries : ∀ stop budget, Yields (readEntries nested stop budget .empty) Q) :
    Yields (readTable nested) fun s t => ∃ body, body.length < UInt32.size ∧
      Octets.bigEndian 4 body.length ++ body = s ∧ Q body t := by
  intro position input table r hok
  obtain ⟨length, rest, rfl, hlt, hread, hstop⟩ := exists_readEntries_of_readTable hok
  obtain ⟨body, rest, rfl, rfl, hbody⟩ := hentries _ length _ _ _ _ hread
  obtain rfl : body.length = length := Nat.add_left_cancel hstop
  exact ⟨_, rest, (List.append_assoc ..).symm, by simp [Nat.add_assoc], body, hlt, rfl, hbody⟩

/-! ## Values -/

/-- Relations that cover what the reader accepts: one between octets and a value in which so many
levels may be opened, and one between octets and what the entries read from them make of a table. -/
structure CoversReading (V : Nat → Octets → Value → Prop)
    (T : Nat → Table → Octets → Table → Prop) : Prop where
  written {levels : Nat} {value : Value} {octets : Octets} (hne : value.primitive ≠ .table)
    (h : value.encode = .ok octets) : V levels octets value
  /-- Any octet stands for a bit. -/
  bit (levels : Nat) (octet : UInt8) : V levels [octet] (.bit (octet != 0))
  nil (levels : Nat) (table : Table) : T levels table [] table
  cons {levels : Nat} {key : String} {k v r : Octets} {value : Value} {table table' : Table}
    (hk : encodeShortString key = .ok k) (hv : V levels v value)
    (hr : T levels (table.insert key value) r table') :
    T levels table (k ++ value.primitive.tag :: v ++ r) table'
  table {levels : Nat} {body : Octets} {t : Table} (hlength : body.length < UInt32.size)
    (h : T levels .empty body t) :
    V (levels + 1) (Octets.bigEndian 4 body.length ++ body) (.table t)

namespace CoversReading

variable {V : Nat → Octets → Value → Prop} {T : Nat → Table → Octets → Table → Prop}

/-- **Reading one entry more** puts it in front of those behind it. -/
theorem yields_readEntries (h : CoversReading V T) {nested : Primitive → Read Value} {levels : Nat}
    (hnested : ∀ kind, Yields (nested kind) fun s v => V levels s v ∧ v.primitive = kind)
    (stop : Nat) : ∀ (budget : Nat) (table : Table),
    Yields (readEntries nested stop budget table) (T levels table)
  | 0, table => .pure (h.nil levels table)
  | budget + 1, table => by
      refine .get fun r => ?_
      split
      · refine yields_readShortString.bind fun k key hk => yields_readTag.bind fun tag kind htag =>
          (hnested kind).bind fun v value hvalue =>
            (h.yields_readEntries hnested stop budget _).imp fun s t ht => ?_
        obtain ⟨hvalue, rfl⟩ := hvalue
        subst htag
        have hall := h.cons hk hvalue ht
        rwa [List.append_assoc, List.cons_append] at hall
      · exact .pure (h.nil levels table)

/-- **What is read as a value stands in the relation to its octets**, however deep its tables. -/
theorem yields_readValue (h : CoversReading V T) : ∀ (levels : Nat) (kind : Primitive),
    Yields (readValue levels kind) fun s v => V levels s v ∧ v.primitive = kind
  | 0, .table => .throw
  | levels + 1, .table => by
      rw [readValue]
      refine (yields_readTable_of_readEntries fun stop budget =>
        h.yields_readEntries (h.yields_readValue levels) stop budget _).map ?_
      rintro _ t ⟨body, hlength, rfl, ht⟩
      exact ⟨h.table hlength ht, rfl⟩
  | levels, .bit => by
      rw [readValue]
      exact yields_readOctet.map fun s v hs => ⟨by simpa [← hs] using h.bit levels v, rfl⟩
  | _, .octet => by
      rw [readValue]
      exact yields_readOctet.map fun s v hs => ⟨h.written nofun (congrArg _ hs), rfl⟩
  | _, .short => by
      rw [readValue]
      exact yields_readShort.map fun s v hs => ⟨h.written nofun (congrArg _ hs), rfl⟩
  | _, .long => by
      rw [readValue]
      exact yields_readLong.map fun s v hs => ⟨h.written nofun (congrArg _ hs), rfl⟩
  | _, .longlong | _, .timestamp => by
      rw [readValue]
      exact yields_readLonglong.map fun s v hs => ⟨h.written nofun (congrArg _ hs), rfl⟩
  | _, .shortstr => by
      rw [readValue]
      exact yields_readShortString.map fun s v hs => ⟨h.written nofun hs, rfl⟩
  | _, .longstr => by
      rw [readValue]
      exact yields_readLongString.map fun s v hs => ⟨h.written nofun hs, rfl⟩

end CoversReading

end Wire

end FrameSchema
