import PrivilegeCatalog.Encoding

/-!
# UTF-8 is read back

What `Encoding.utf8Char` gives for a character is decoded to that character, whatever follows it.
So a text is told from its octets (`decodeUtf8_encode`, `utf8_injective`), and octets that are
decoded as a whole are those of a text (`encode_decodeUtf8`).
-/

namespace PrivilegeCatalog.Encoding

/-- The code point of a character is no surrogate and is in range. -/
theorem toNat_valid (c : Char) :
    c.toNat < 0xD800 ∨ 0xE000 ≤ c.toNat ∧ c.toNat < 0x110000 := by
  obtain low | ⟨high, bound⟩ := c.valid
  · exact .inl low
  · refine .inr ⟨?_, bound⟩
    have : 0xDFFF < c.toNat := high
    omega

theorem toNat_ofNat {n : Nat} (valid : n.isValidChar) : (Char.ofNat n).toNat = n := by
  rw [Char.ofNat, dif_pos valid]
  rfl

theorem ofNat_lt {n : Nat} {b : UInt8} (small : n < 256) : UInt8.ofNat n < b ↔ n < b.toNat := by
  rw [UInt8.lt_iff_toNat_lt, UInt8.toNat_ofNat_of_lt' small]

theorem le_ofNat {n : Nat} {b : UInt8} (small : n < 256) : b ≤ UInt8.ofNat n ↔ b.toNat ≤ n := by
  rw [UInt8.le_iff_toNat_le, UInt8.toNat_ofNat_of_lt' small]

theorem ofNat_not_lt {n : Nat} {b : UInt8} (small : n < 256) (high : b.toNat ≤ n) :
    ¬ UInt8.ofNat n < b := by
  rw [ofNat_lt small]
  omega

/-- The octets after the first are continuation octets. -/
theorem isTail_ofNat (k : Nat) : isTail (UInt8.ofNat (0x80 + k % 64)) = true := by
  have small : 0x80 + k % 64 < 256 := by omega
  have low : (0x80 : UInt8).toNat = 128 := rfl
  have high : (0xC0 : UInt8).toNat = 192 := rfl
  rw [isTail, Bool.and_eq_true, decide_eq_true_iff, decide_eq_true_iff, le_ofNat small,
    ofNat_lt small]
  omega

theorem sixBits_ofNat (k : Nat) : sixBits (UInt8.ofNat (0x80 + k % 64)) = k % 64 := by
  rw [sixBits, UInt8.toNat_ofNat_of_lt' (by omega : 0x80 + k % 64 < 256)]
  omega

/-! ## One character -/

variable {n : Nat} {rest : Bytes}

theorem decodeUtf8_one (small : n < 0x80) :
    decodeUtf8 (UInt8.ofNat n :: rest) = (decodeUtf8 rest).cons (Char.ofNat n) := by
  have octet : n < 256 := by omega
  have first : UInt8.ofNat n < 0x80 := (ofNat_lt octet).mpr small
  rw [decodeUtf8.eq_def]
  dsimp only
  rw [if_pos first, UInt8.toNat_ofNat_of_lt' octet]

theorem decodeUtf8_two (low : 0x80 ≤ n) (high : n < 0x800) :
    decodeUtf8 (UInt8.ofNat (0xC0 + n / 64) :: UInt8.ofNat (0x80 + n % 64) :: rest)
      = (decodeUtf8 rest).cons (Char.ofNat n) := by
  have octet : 0xC0 + n / 64 < 256 := by omega
  have notOne : ¬ UInt8.ofNat (0xC0 + n / 64) < 0x80 :=
    ofNat_not_lt octet (show 128 ≤ _ by omega)
  have above : 0xC2 ≤ UInt8.ofNat (0xC0 + n / 64) := (le_ofNat octet).mpr (show 194 ≤ _ by omega)
  have below : UInt8.ofNat (0xC0 + n / 64) < 0xE0 := (ofNat_lt octet).mpr (show _ < 224 by omega)
  have whole : (0xC0 + n / 64) % 32 * 64 + n % 64 = n := by omega
  rw [decodeUtf8.eq_def]
  dsimp only
  rw [if_neg notOne, decide_eq_true above, decide_eq_true below, isTail_ofNat, sixBits_ofNat,
    UInt8.toNat_ofNat_of_lt' octet, whole]
  rfl

theorem decodeUtf8_three (low : 0x800 ≤ n) (high : n < 0x10000)
    (character : n < 0xD800 ∨ 0xE000 ≤ n) :
    decodeUtf8 (UInt8.ofNat (0xE0 + n / 4096) :: UInt8.ofNat (0x80 + n / 64 % 64)
        :: UInt8.ofNat (0x80 + n % 64) :: rest)
      = (decodeUtf8 rest).cons (Char.ofNat n) := by
  have octet : 0xE0 + n / 4096 < 256 := by omega
  have notOne : ¬ UInt8.ofNat (0xE0 + n / 4096) < 0x80 :=
    ofNat_not_lt octet (show 128 ≤ _ by omega)
  have notTwo : ¬ UInt8.ofNat (0xE0 + n / 4096) < 0xE0 :=
    ofNat_not_lt octet (show 224 ≤ _ by omega)
  have above : 0xE0 ≤ UInt8.ofNat (0xE0 + n / 4096) :=
    (le_ofNat octet).mpr (show 224 ≤ _ by omega)
  have below : UInt8.ofNat (0xE0 + n / 4096) < 0xF0 :=
    (ofNat_lt octet).mpr (show _ < 240 by omega)
  have whole : (0xE0 + n / 4096) % 16 * 4096 + n / 64 % 64 * 64 + n % 64 = n := by omega
  have apart : (!(decide (0xD800 ≤ n) && decide (n < 0xE000))) = true := by
    rw [← Bool.decide_and, ← decide_not, decide_eq_true_iff]
    omega
  rw [decodeUtf8.eq_def]
  dsimp only
  rw [if_neg notOne, decide_eq_false notTwo, Bool.and_false, Bool.false_and,
    if_neg Bool.false_ne_true, sixBits_ofNat, sixBits_ofNat, UInt8.toNat_ofNat_of_lt' octet,
    whole, isTail_ofNat, isTail_ofNat, apart, decide_eq_true above, decide_eq_true below,
    decide_eq_true low]
  rfl

theorem decodeUtf8_four (low : 0x10000 ≤ n) (high : n < 0x110000) :
    decodeUtf8 (UInt8.ofNat (0xF0 + n / 262144) :: UInt8.ofNat (0x80 + n / 4096 % 64)
        :: UInt8.ofNat (0x80 + n / 64 % 64) :: UInt8.ofNat (0x80 + n % 64) :: rest)
      = (decodeUtf8 rest).cons (Char.ofNat n) := by
  have octet : 0xF0 + n / 262144 < 256 := by omega
  have notOne : ¬ UInt8.ofNat (0xF0 + n / 262144) < 0x80 :=
    ofNat_not_lt octet (show 128 ≤ _ by omega)
  have notTwo : ¬ UInt8.ofNat (0xF0 + n / 262144) < 0xE0 :=
    ofNat_not_lt octet (show 224 ≤ _ by omega)
  have notThree : ¬ UInt8.ofNat (0xF0 + n / 262144) < 0xF0 :=
    ofNat_not_lt octet (show 240 ≤ _ by omega)
  have above : 0xF0 ≤ UInt8.ofNat (0xF0 + n / 262144) :=
    (le_ofNat octet).mpr (show 240 ≤ _ by omega)
  have below : UInt8.ofNat (0xF0 + n / 262144) < 0xF8 :=
    (ofNat_lt octet).mpr (show _ < 248 by omega)
  have whole : (0xF0 + n / 262144) % 8 * 262144 + n / 4096 % 64 * 4096 + n / 64 % 64 * 64
      + n % 64 = n := by omega
  rw [decodeUtf8.eq_def]
  dsimp only
  rw [if_neg notOne, decide_eq_false notTwo, Bool.and_false, Bool.false_and,
    if_neg Bool.false_ne_true, decide_eq_false notThree, Bool.and_false, Bool.false_and,
    Bool.false_and, Bool.false_and, Bool.false_and, if_neg Bool.false_ne_true, sixBits_ofNat,
    sixBits_ofNat, sixBits_ofNat, UInt8.toNat_ofNat_of_lt' octet, whole, isTail_ofNat,
    isTail_ofNat, isTail_ofNat, decide_eq_true above, decide_eq_true below, decide_eq_true low,
    decide_eq_true high]
  rfl

/-! ## Texts -/

/-- A character is decoded from its octets. -/
theorem decodeUtf8_utf8Char_append (c : Char) :
    decodeUtf8 (utf8Char c ++ rest) = (decodeUtf8 rest).cons c := by
  have valid := toNat_valid c
  have back : Char.ofNat c.toNat = c := Char.ofNat_toNat c
  rw [utf8Char]
  dsimp only
  split
  case isTrue small => rw [List.singleton_append, decodeUtf8_one small, back]
  case isFalse one =>
    split
    case isTrue small =>
      rw [List.cons_append, List.singleton_append, decodeUtf8_two (by omega) small, back]
    case isFalse two =>
      split
      case isTrue small =>
        rw [List.cons_append, List.cons_append, List.singleton_append,
          decodeUtf8_three (by omega) small (by omega), back]
      case isFalse three =>
        rw [List.cons_append, List.cons_append, List.cons_append, List.singleton_append,
          decodeUtf8_four (by omega) (by omega), back]

/-- A text is decoded from its octets. -/
theorem decodeUtf8_encode (cs : List Char) : decodeUtf8 (cs.flatMap utf8Char) = ⟨cs, true⟩ := by
  induction cs with
  | nil => rfl
  | cons c rest ih => rw [List.flatMap_cons, decodeUtf8_utf8Char_append, ih, Decoded.cons]

/-- Texts with the same octets are the same. -/
theorem utf8_injective {first second : List Char}
    (same : first.flatMap utf8Char = second.flatMap utf8Char) : first = second := by
  have decoded := congrArg decodeUtf8 same
  rw [decodeUtf8_encode, decodeUtf8_encode] at decoded
  exact congrArg Decoded.chars decoded

/-! ## Octets that are a text -/

theorem isTail_iff {b : UInt8} : isTail b = true ↔ 0x80 ≤ b.toNat ∧ b.toNat < 0xC0 := by
  rw [isTail, Bool.and_eq_true, decide_eq_true_iff, decide_eq_true_iff, UInt8.le_iff_toNat_le,
    UInt8.lt_iff_toNat_lt]
  rfl

/-- A continuation octet is made again of its bits, which may stand under others. -/
theorem ofNat_sixBits {b : UInt8} (tail : isTail b = true) {n : Nat} (bits : n % 64 = sixBits b) :
    UInt8.ofNat (0x80 + n % 64) = b := by
  obtain ⟨low, high⟩ := isTail_iff.mp tail
  have whole : 0x80 + n % 64 = b.toNat := by
    rw [bits, sixBits]
    omega
  rw [whole, UInt8.ofNat_toNat]

theorem sixBits_lt (b : UInt8) : sixBits b < 64 := Nat.mod_lt _ (by decide)

theorem utf8Char_one {a : UInt8} (small : a < 0x80) : utf8Char (Char.ofNat a.toNat) = [a] := by
  have low : a.toNat < 0x80 := UInt8.lt_iff_toNat_lt.mp small
  have valid : a.toNat.isValidChar := .inl (by omega)
  rw [utf8Char, toNat_ofNat valid]
  dsimp only
  rw [if_pos low, UInt8.ofNat_toNat]

theorem utf8Char_two {a b : UInt8} (first : 0xC2 ≤ a ∧ a < 0xE0) (tail : isTail b = true) :
    utf8Char (Char.ofNat (a.toNat % 32 * 64 + sixBits b)) = [a, b] := by
  have low : 0xC2 ≤ a.toNat := UInt8.le_iff_toNat_le.mp first.1
  have high : a.toNat < 0xE0 := UInt8.lt_iff_toNat_lt.mp first.2
  have bits := sixBits_lt b
  have lead : 0xC0 + (a.toNat % 32 * 64 + sixBits b) / 64 = a.toNat := by omega
  have last : (a.toNat % 32 * 64 + sixBits b) % 64 = sixBits b := by omega
  have valid : (a.toNat % 32 * 64 + sixBits b).isValidChar := .inl (by omega)
  rw [utf8Char, toNat_ofNat valid]
  dsimp only
  rw [if_neg (by omega), if_pos (by omega), lead, UInt8.ofNat_toNat, ofNat_sixBits tail last]

theorem utf8Char_three {a b c : UInt8} (first : 0xE0 ≤ a ∧ a < 0xF0) (tail : isTail b = true)
    (tail' : isTail c = true)
    (shortest : 0x800 ≤ a.toNat % 16 * 4096 + sixBits b * 64 + sixBits c)
    (character : ¬ (0xD800 ≤ a.toNat % 16 * 4096 + sixBits b * 64 + sixBits c
      ∧ a.toNat % 16 * 4096 + sixBits b * 64 + sixBits c < 0xE000)) :
    utf8Char (Char.ofNat (a.toNat % 16 * 4096 + sixBits b * 64 + sixBits c)) = [a, b, c] := by
  have low : 0xE0 ≤ a.toNat := UInt8.le_iff_toNat_le.mp first.1
  have high : a.toNat < 0xF0 := UInt8.lt_iff_toNat_lt.mp first.2
  have bits := sixBits_lt b
  have bits' := sixBits_lt c
  generalize point : a.toNat % 16 * 4096 + sixBits b * 64 + sixBits c = n at shortest character ⊢
  have lead : 0xE0 + n / 4096 = a.toNat := by omega
  have second : n / 64 % 64 = sixBits b := by omega
  have last : n % 64 = sixBits c := by omega
  have valid : n.isValidChar := by
    unfold Nat.isValidChar
    omega
  rw [utf8Char, toNat_ofNat valid]
  dsimp only
  rw [if_neg (by omega), if_neg (by omega), if_pos (by omega), lead, UInt8.ofNat_toNat,
    ofNat_sixBits tail second, ofNat_sixBits tail' last]

theorem utf8Char_four {a b c d : UInt8} (first : 0xF0 ≤ a ∧ a < 0xF8) (tail : isTail b = true)
    (tail' : isTail c = true) (tail'' : isTail d = true)
    (shortest : 0x10000 ≤ a.toNat % 8 * 262144 + sixBits b * 4096 + sixBits c * 64 + sixBits d)
    (character :
      a.toNat % 8 * 262144 + sixBits b * 4096 + sixBits c * 64 + sixBits d < 0x110000) :
    utf8Char (Char.ofNat (a.toNat % 8 * 262144 + sixBits b * 4096 + sixBits c * 64 + sixBits d))
      = [a, b, c, d] := by
  have low : 0xF0 ≤ a.toNat := UInt8.le_iff_toNat_le.mp first.1
  have high : a.toNat < 0xF8 := UInt8.lt_iff_toNat_lt.mp first.2
  have bits := sixBits_lt b
  have bits' := sixBits_lt c
  have bits'' := sixBits_lt d
  generalize point : a.toNat % 8 * 262144 + sixBits b * 4096 + sixBits c * 64 + sixBits d = n
    at shortest character ⊢
  have lead : 0xF0 + n / 262144 = a.toNat := by omega
  have second : n / 4096 % 64 = sixBits b := by omega
  have third : n / 64 % 64 = sixBits c := by omega
  have last : n % 64 = sixBits d := by omega
  have valid : n.isValidChar := .inr ⟨by omega, character⟩
  rw [utf8Char, toNat_ofNat valid]
  dsimp only
  rw [if_neg (by omega), if_neg (by omega), if_neg (by omega), lead, UInt8.ofNat_toNat,
    ofNat_sixBits tail second, ofNat_sixBits tail' third, ofNat_sixBits tail'' last]

/-- What is decoded as a whole is the octets of its characters. -/
theorem encode_decodeUtf8 {bytes : Bytes} (whole : (decodeUtf8 bytes).complete = true) :
    (decodeUtf8 bytes).chars.flatMap utf8Char = bytes := by
  fun_induction decodeUtf8 bytes with
  | case1 => rfl
  | case2 a rest small ih =>
    rw [Decoded.cons, List.flatMap_cons, utf8Char_one small, ih whole]
    rfl
  | case4 a _ b rest lead ih =>
    simp only [Bool.and_eq_true, decide_eq_true_eq] at lead
    rw [Decoded.cons, List.flatMap_cons, utf8Char_two lead.1 lead.2, ih whole]
    rfl
  | case6 a _ b _ c rest point lead ih =>
    simp only [Bool.and_eq_true, Bool.not_eq_true', Bool.and_eq_false_iff, decide_eq_true_eq,
      decide_eq_false_iff_not] at lead
    obtain ⟨⟨⟨⟨first, tail⟩, tail'⟩, shortest⟩, character⟩ := lead
    rw [Decoded.cons, List.flatMap_cons,
      utf8Char_three first tail tail' shortest (Decidable.not_and_iff_or_not.mpr character),
      ih whole]
    rfl
  | case8 a _ b _ c _ _ d rest point lead ih =>
    simp only [Bool.and_eq_true, decide_eq_true_eq] at lead
    obtain ⟨⟨⟨⟨⟨first, tail⟩, tail'⟩, tail''⟩, shortest⟩, character⟩ := lead
    rw [Decoded.cons, List.flatMap_cons,
      utf8Char_four first tail tail' tail'' shortest character, ih whole]
    rfl
  | _ => cases whole

end PrivilegeCatalog.Encoding
