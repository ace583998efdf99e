import Mathlib.Data.List.Basic
import PrivilegeCatalog.Proofs.Utf8

/-!
# Each encoding is read back

A text whose characters an encoding has is decoded from what it is encoded to (`decode_encode`).
All encodings have the characters of ASCII, and all but those of sixteen bits store each of these
in the same octet (`encode_ascii`).
-/

namespace PrivilegeCatalog.Encoding

/-- The encoding has a character. -/
def has (e : Encoding) (c : Char) : Bool := (e.encodeChar? c).isSome

theorem encode_cons (e : Encoding) (c : Char) (rest : List Char) :
    e.encode (c :: rest) = (e.encodeChar? c).getD [] ++ e.encode rest :=
  List.flatMap_cons

theorem encode_append (e : Encoding) (first second : List Char) :
    e.encode (first ++ second) = e.encode first ++ e.encode second :=
  List.flatMap_append

theorem has_latin1 {c : Char} : latin1.has c = true ↔ c.toNat < 0x100 := by
  rw [has, encodeChar?]
  split <;> simp_all

theorem has_ascii {c : Char} : ascii.has c = true ↔ c.toNat < 0x80 := by
  rw [has, encodeChar?]
  split <;> simp_all

/-- Every encoding has the characters of ASCII. -/
theorem has_of_low (e : Encoding) {c : Char} (low : c.toNat < 0x80) : e.has c = true := by
  cases e with
  | latin1 => exact has_latin1.mpr (by omega)
  | ascii => exact has_ascii.mpr low
  | _ => rfl

/-! ## Octets -/

/-- A text whose characters are single octets. -/
theorem encode_octets {e : Encoding} {cs : List Char}
    (single : ∀ c ∈ cs, e.encodeChar? c = some [UInt8.ofNat c.toNat]) :
    e.encode cs = cs.map fun c => UInt8.ofNat c.toNat := by
  rw [encode, List.map_eq_flatMap]
  refine List.flatMap_congr fun c inside => ?_
  rw [single c inside, Option.getD_some]

/-- An encoding in which the characters of ASCII are single octets. -/
def IsNarrow (e : Encoding) : Prop := e = utf8 ∨ e = latin1 ∨ e = ascii

theorem encode_ascii {e : Encoding} (narrow : e.IsNarrow) {cs : List Char}
    (low : ∀ c ∈ cs, c.toNat < 0x80) : e.encode cs = cs.map fun c => UInt8.ofNat c.toNat := by
  refine encode_octets fun c inside => ?_
  have one := low c inside
  rcases narrow with same | same | same
  · rw [same, encodeChar?, utf8Char, if_pos one]
  · rw [same, encodeChar?, if_pos (by omega)]
  · rw [same, encodeChar?, if_pos one]

/-- Characters are read back from single octets. -/
theorem decodeSingle_octets {limit : Nat} (octet : limit ≤ 0x100) {cs : List Char}
    (low : ∀ c ∈ cs, c.toNat < limit) :
    decodeSingle limit (cs.map fun c => UInt8.ofNat c.toNat) = ⟨cs, true⟩ := by
  induction cs with
  | nil => rfl
  | cons c rest ih =>
    obtain ⟨first, others⟩ := List.forall_mem_cons.mp low
    have back : (UInt8.ofNat c.toNat).toNat = c.toNat :=
      UInt8.toNat_ofNat_of_lt' (show c.toNat < 256 by omega)
    rw [List.map_cons, decodeSingle, back, if_pos first, ih others, Char.ofNat_toNat,
      Decoded.cons]

/-! ## Units of sixteen bits -/

/-- A unit in octets, in the given order. -/
def unit (highFirst : Bool) : Nat → Bytes := if highFirst then unitHigh else unitLow

/-- Units are read back from their octets. -/
theorem unitsOf_flatMap (highFirst : Bool) {units : List Nat} (small : ∀ u ∈ units, u < 0x10000) :
    unitsOf highFirst (units.flatMap (unit highFirst)) = (units, true) := by
  induction units with
  | nil => rfl
  | cons u rest ih =>
    obtain ⟨first, others⟩ := List.forall_mem_cons.mp small
    have high : (UInt8.ofNat (u / 256)).toNat = u / 256 :=
      UInt8.toNat_ofNat_of_lt' (show u / 256 < 256 by omega)
    have low : (UInt8.ofNat (u % 256)).toNat = u % 256 :=
      UInt8.toNat_ofNat_of_lt' (show u % 256 < 256 by omega)
    have whole : u / 256 * 256 + u % 256 = u := by omega
    cases highFirst with
    | true =>
      rw [List.flatMap_cons, unit, if_pos rfl, unitHigh, List.cons_append, List.singleton_append,
        unitsOf]
      rw [unit, if_pos rfl] at ih
      rw [ih others, if_pos rfl, high, low, whole]
    | false =>
      rw [List.flatMap_cons, unit, if_neg Bool.false_ne_true, unitLow, List.cons_append,
        List.singleton_append, unitsOf]
      rw [unit, if_neg Bool.false_ne_true] at ih
      rw [ih others, if_neg Bool.false_ne_true, high, low, whole]

theorem utf16Units_small (c : Char) : ∀ u ∈ utf16Units c, u < 0x10000 := by
  have valid := toNat_valid c
  unfold utf16Units
  dsimp only
  split
  case isTrue small => exact fun u inside => (List.mem_singleton.mp inside).symm ▸ small
  case isFalse large =>
    refine List.forall_mem_cons.mpr ⟨by omega, fun u inside => ?_⟩
    rw [List.mem_singleton.mp inside]
    omega

/-- A character is decoded from its units, whatever follows them. -/
theorem decodeUnits_utf16Units_append (c : Char) (rest : List Nat) :
    decodeUnits (utf16Units c ++ rest) = (decodeUnits rest).cons c := by
  have valid := toNat_valid c
  have back : Char.ofNat c.toNat = c := Char.ofNat_toNat c
  unfold utf16Units
  dsimp only
  split
  case isTrue small =>
    have noHigh : (0xD800 ≤ c.toNat && c.toNat < 0xDC00) = false := by
      rw [Bool.and_eq_false_iff, decide_eq_false_iff_not, decide_eq_false_iff_not]
      omega
    have noLow : (0xDC00 ≤ c.toNat && c.toNat < 0xE000) = false := by
      rw [Bool.and_eq_false_iff, decide_eq_false_iff_not, decide_eq_false_iff_not]
      omega
    rw [List.singleton_append, decodeUnits.eq_def]
    dsimp only
    rw [noHigh, if_neg Bool.false_ne_true, noLow, if_neg Bool.false_ne_true, back]
  case isFalse large =>
    have high : (0xD800 ≤ 0xD800 + (c.toNat - 0x10000) / 1024
        && 0xD800 + (c.toNat - 0x10000) / 1024 < 0xDC00) = true := by
      rw [Bool.and_eq_true, decide_eq_true_iff, decide_eq_true_iff]
      omega
    have low : (0xDC00 ≤ 0xDC00 + (c.toNat - 0x10000) % 1024
        && 0xDC00 + (c.toNat - 0x10000) % 1024 < 0xE000) = true := by
      rw [Bool.and_eq_true, decide_eq_true_iff, decide_eq_true_iff]
      omega
    have whole : 0x10000 + (0xD800 + (c.toNat - 0x10000) / 1024 - 0xD800) * 1024
        + (0xDC00 + (c.toNat - 0x10000) % 1024 - 0xDC00) = c.toNat := by
      omega
    rw [List.cons_append, List.singleton_append, decodeUnits.eq_def]
    dsimp only
    rw [high, if_pos rfl, low, if_pos rfl, whole, back]

theorem decodeUnits_flatMap (cs : List Char) :
    decodeUnits (cs.flatMap utf16Units) = ⟨cs, true⟩ := by
  induction cs with
  | nil => rfl
  | cons c rest ih => rw [List.flatMap_cons, decodeUnits_utf16Units_append, ih, Decoded.cons]

/-- A text is decoded from its units in either order of octets. -/
theorem decodeUtf16_units (highFirst : Bool) (cs : List Char) :
    decodeUtf16 highFirst ((cs.flatMap utf16Units).flatMap (unit highFirst)) = ⟨cs, true⟩ := by
  have small : ∀ u ∈ cs.flatMap utf16Units, u < 0x10000 := by
    intro u inside
    obtain ⟨c, -, inside⟩ := List.mem_flatMap.mp inside
    exact utf16Units_small c u inside
  rw [decodeUtf16, unitsOf_flatMap highFirst small]
  dsimp only
  rw [decodeUnits_flatMap]
  rfl

theorem encode_utf16le (cs : List Char) :
    utf16le.encode cs = (cs.flatMap utf16Units).flatMap (unit false) :=
  List.flatMap_assoc.symm

theorem encode_utf16be (cs : List Char) :
    utf16be.encode cs = (cs.flatMap utf16Units).flatMap (unit true) :=
  List.flatMap_assoc.symm

/-! ## Texts -/

/-- A text is decoded from what it is encoded to, after the byte order mark if there is one. -/
theorem decode_encode (e : Encoding) {cs : List Char} (all : ∀ c ∈ cs, e.has c = true) :
    e.decode (e.mark ++ e.encode cs) = ⟨cs, true⟩ := by
  cases e with
  | utf8 => exact decodeUtf8_encode cs
  | utf16 | utf16le =>
    refine Eq.trans ?_ (decodeUtf16_units false cs)
    rw [← encode_utf16le]
    rfl
  | utf16be =>
    refine Eq.trans ?_ (decodeUtf16_units true cs)
    rw [← encode_utf16be]
    rfl
  | latin1 =>
    have low : ∀ c ∈ cs, c.toNat < 0x100 := fun c inside => has_latin1.mp (all c inside)
    rw [encode_octets fun c inside => by rw [encodeChar?, if_pos (low c inside)]]
    exact decodeSingle_octets (Nat.le_refl _) low
  | ascii =>
    have low : ∀ c ∈ cs, c.toNat < 0x80 := fun c inside => has_ascii.mp (all c inside)
    rw [encode_octets fun c inside => by rw [encodeChar?, if_pos (low c inside)]]
    exact decodeSingle_octets (by decide) low

end PrivilegeCatalog.Encoding
