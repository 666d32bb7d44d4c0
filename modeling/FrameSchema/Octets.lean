/-!
# Octets — octet strings, big-endian numbers and UTF-8 text

Everything on the wire is a list of octets.  Numbers are written most significant octet first
(`Octets.bigEndian`, read by `Octets.toNat`); text is its UTF-8 encoding (`Octets.ofText`, read by
`Octets.toText?`), and `Octets.toText?_eq_some_iff` says that each text has one encoding.
-/

namespace FrameSchema

/-- A string of octets. -/
abbrev Octets := List UInt8

namespace Octets

/-- The last `width` base-256 digits of a number, most significant first. -/
def bigEndian : (width n : Nat) → Octets
  | 0, _ => []
  | width + 1, n => UInt8.ofNat (n >>> (8 * width)) :: bigEndian width n

/-- So many digits are written as were asked for. -/
@[simp] theorem length_bigEndian : ∀ width n : Nat, (bigEndian width n).length = width
  | 0, _ => rfl
  | width + 1, n => by rw [bigEndian, List.length_cons, length_bigEndian width n]

/-- The number written by base-256 digits, most significant first. -/
def toNat (octets : Octets) : Nat := octets.foldl (fun n octet => n * 256 + octet.toNat) 0

/-- The UTF-8 encoding of a text. -/
def ofText (text : String) : Octets := text.toUTF8.data.toList

/-- The text that octets encode, if they are well-formed UTF-8. -/
def toText? (octets : Octets) : Option String := String.fromUTF8? ⟨octets.toArray⟩

@[simp] theorem length_ofText (text : String) : (ofText text).length = text.utf8ByteSize := rfl

/-- An encoded text is decoded. -/
@[simp] theorem toText?_ofText (text : String) : toText? (ofText text) = some text := by
  simp only [toText?, ofText, Array.toArray_toList]
  exact dif_pos text.isValidUTF8

/-- **Octets decode to a text only if they are its encoding.** -/
theorem toText?_eq_some_iff {octets : Octets} {text : String} :
    toText? octets = some text ↔ octets = ofText text := by
  refine ⟨fun h => ?_, fun h => h ▸ toText?_ofText text⟩
  unfold toText? String.fromUTF8? at h
  split at h
  · obtain rfl := Option.some.inj h
    rfl
  · cases h

end Octets

end FrameSchema
