import PrivilegeCatalog.Proofs.Writing.Encoded
import PrivilegeCatalog.Proofs.Xml.Blanks

/-!
# Documents in UTF-8

What the octets of a text in UTF-8 say about their own encoding. A byte order mark at the start of
the text is taken off (`decodeDocument_mark`). Without a mark and without null characters no other
form is seen in the octets, so the encoding is the one that a declaration names
(`decodeDocument_of_no_mark`). The declaration is looked for in the ASCII characters that the text
begins with (`declaredEncoding?_encode`).
-/

namespace PrivilegeCatalog.Encoding

/-- No character starts with so high an octet. -/
theorem decodeUtf8_of_high {a : UInt8} (high : 0xF8 ≤ a) (rest : Bytes) :
    decodeUtf8 (a :: rest) = ⟨[], false⟩ := by
  have above : 248 ≤ a.toNat := high
  have noOne : ¬ a < 0x80 := fun low => absurd (UInt8.lt_iff_toNat_lt.mp low) (by simp; omega)
  have noTwo : ¬ a < 0xE0 := fun low => absurd (UInt8.lt_iff_toNat_lt.mp low) (by simp; omega)
  have noThree : ¬ a < 0xF0 := fun low => absurd (UInt8.lt_iff_toNat_lt.mp low) (by simp; omega)
  have noFour : ¬ a < 0xF8 := fun low => absurd (UInt8.lt_iff_toNat_lt.mp low) (by simp; omega)
  rw [decodeUtf8.eq_def]
  dsimp only
  rw [if_neg noOne, decide_eq_false noTwo, decide_eq_false noThree, decide_eq_false noFour]
  rcases rest with _ | ⟨b, _ | ⟨c, _ | ⟨d, rest⟩⟩⟩ <;> simp

/-- The octets of a character that is not of ASCII start with a high one. -/
theorem exists_utf8Char_of_high {c : Char} (high : 0x80 ≤ c.toNat) :
    ∃ a more, utf8Char c = a :: more ∧ ¬ a < 0x80 := by
  have valid := toNat_valid c
  rw [utf8Char]
  dsimp only
  rw [if_neg (by omega)]
  split_ifs with two three
  · exact ⟨_, _, rfl, ofNat_not_lt (by omega) (show 128 ≤ _ by omega)⟩
  · exact ⟨_, _, rfl, ofNat_not_lt (by omega) (show 128 ≤ _ by omega)⟩
  · exact ⟨_, _, rfl, ofNat_not_lt (by omega) (show 128 ≤ _ by omega)⟩

theorem utf8Char_of_low {c : Char} (low : c.toNat < 0x80) :
    utf8Char c = [UInt8.ofNat c.toNat] := by
  rw [utf8Char]
  exact if_pos low

end PrivilegeCatalog.Encoding

namespace PrivilegeCatalog.Xml

open Encoding (utf8Char decodeUtf8)

/-! ## The form of the octets -/

/-- The characters of octets in the encoding that their declaration names, in UTF-8 if it names
none. -/
def decodeDeclared (octets : Bytes) : Decoded :=
  match declaredEncoding? octets with
  | none => decodeAs .utf8 octets
  | some name =>
    match Encoding.ofName? name with
    | some .utf8 => decodeAs .utf8 octets
    | some .latin1 => decodeAs .latin1 octets
    | some .ascii => decodeAs .ascii octets
    | some .utf16 | some .utf16le | some .utf16be | none => ⟨[], false⟩

/-- A text is decoded from its octets without the byte order mark that it begins with. -/
theorem decodeDocument_mark (cs : List Char) :
    decodeDocument (('\ufeff' :: cs).flatMap utf8Char) = ⟨cs, true⟩ := by
  have mark : utf8Char '\ufeff' = [0xEF, 0xBB, 0xBF] := by decide
  rw [List.flatMap_cons, mark]
  exact Encoding.decodeUtf8_encode cs

/-- Without a mark and without null characters, a text is decoded as its octets declare. -/
theorem decodeDocument_of_no_mark {cs : List Char} (noNull : '\x00' ∉ cs)
    (noMark : ∀ rest, cs ≠ '\ufeff' :: rest) :
    decodeDocument (cs.flatMap utf8Char) = decodeDeclared (cs.flatMap utf8Char) := by
  have decoded := Encoding.decodeUtf8_encode cs
  rw [decodeDocument.eq_def]
  split
  case h_1 same =>
    rw [same, Encoding.decodeUtf8_of_high (by decide)] at decoded
    cases decoded
  case h_2 same =>
    rw [same, Encoding.decodeUtf8_of_high (by decide)] at decoded
    cases decoded
  case h_3 rest same =>
    have first := @Encoding.decodeUtf8_three 0xFEFF rest (by decide) (by decide) (by decide)
    have chars :=
      congrArg Decoded.chars (decoded.symm.trans ((congrArg decodeUtf8 same).trans first))
    exact absurd chars (noMark _)
  case h_4 rest same =>
    have first := @Encoding.decodeUtf8_one 0x3C (0x00 :: 0x3F :: 0x00 :: rest) (by decide)
    have second := @Encoding.decodeUtf8_one 0x00 (0x3F :: 0x00 :: rest) (by decide)
    have chars := congrArg Decoded.chars (decoded.symm.trans ((congrArg decodeUtf8 same).trans
      (first.trans (congrArg _ second))))
    refine absurd ?_ noNull
    dsimp only at chars
    rw [chars]
    exact List.mem_cons_of_mem _ (List.mem_cons_self ..)
  case h_5 rest same =>
    have first := @Encoding.decodeUtf8_one 0x00 (0x3C :: 0x00 :: 0x3F :: rest) (by decide)
    have chars :=
      congrArg Decoded.chars (decoded.symm.trans ((congrArg decodeUtf8 same).trans first))
    refine absurd ?_ noNull
    dsimp only at chars
    rw [chars]
    exact List.mem_cons_self ..
  case h_6 => rfl

/-! ## The declaration -/

/-- The ASCII characters at the start of a text are those of its octets. -/
theorem takeWhile_encode (cs : List Char) :
    ((cs.flatMap utf8Char).takeWhile (· < 0x80)).map (fun b => Char.ofNat b.toNat)
      = cs.takeWhile (·.toNat < 0x80) := by
  induction cs with
  | nil => rfl
  | cons c rest ih =>
    rw [List.flatMap_cons]
    rcases Nat.lt_or_ge c.toNat 0x80 with low | high
    · have first := @Writing.takeWhile_octets [c] (List.forall_mem_singleton.mpr low)
        (rest.flatMap utf8Char)
      rw [List.map_singleton] at first
      rw [Encoding.utf8Char_of_low low, first, ih,
        List.takeWhile_cons_of_pos (by simpa using low), List.singleton_append]
    · obtain ⟨a, more, octets, above⟩ := Encoding.exists_utf8Char_of_high high
      rw [octets, List.cons_append, List.takeWhile_cons_of_neg (by simpa using above),
        List.takeWhile_cons_of_neg (by simpa using high), List.map_nil]

/-- A text in UTF-8 declares what its first ASCII characters do. -/
theorem declaredEncoding?_encode (cs : List Char) :
    declaredEncoding? (cs.flatMap utf8Char)
      = (after? "<?xml" (cs.takeWhile (·.toNat < 0x80))).bind fun text =>
          (Declaration.ofText (firstInstruction text)).bind (·.encoding) := by
  rw [declaredEncoding?, takeWhile_encode]
  rfl

/-- A text is cut at the end of its first instruction, if that ends. -/
theorem firstInstruction_cases (cs : List Char) :
    firstInstruction cs = cs ∨ ∃ rest, cs = firstInstruction cs ++ '?' :: '>' :: rest := by
  fun_induction firstInstruction cs with
  | case1 rest => exact .inr ⟨rest, rfl⟩
  | case2 c rest _ ih =>
    rcases ih with whole | ⟨more, cut⟩
    · exact .inl (congrArg (List.cons c) whole)
    · exact .inr ⟨more, congrArg (List.cons c) cut⟩
  | case3 => exact .inl rfl

/-! ## Single octets -/

/-- Octets as characters. -/
def octetChars (octets : Bytes) : List Char := octets.map fun b => Char.ofNat b.toNat

theorem octetChars_append (first second : Bytes) :
    octetChars (first ++ second) = octetChars first ++ octetChars second :=
  List.map_append

/-- The octets of an ASCII text are its characters. -/
theorem octetChars_encode {cs : List Char} (ascii : ∀ c ∈ cs, c.toNat < 0x80) :
    octetChars (cs.flatMap utf8Char) = cs := by
  have octets := Encoding.encode_ascii (.inl rfl) ascii
  have back := Writing.takeWhile_octets ascii []
  have small : ∀ b ∈ cs.map (fun c => UInt8.ofNat c.toNat), decide (b < 0x80) = true := by
    intro b inside
    obtain ⟨c, member, rfl⟩ := List.mem_map.mp inside
    have low := ascii c member
    exact decide_eq_true ((Encoding.ofNat_lt (by omega)).mpr low)
  rw [List.append_nil, List.takeWhile_eq_self_iff.mpr small, ← octets] at back
  exact back.trans (List.append_nil cs)

/-- When a text does not start in ASCII, the characters of its octets do not either. -/
theorem high_octetChars {cs : List Char} (high : ∀ c ∈ cs.head?, 0x80 ≤ c.toNat) :
    ∀ c ∈ (octetChars (cs.flatMap utf8Char)).head?, 0x80 ≤ c.toNat := by
  cases cs with
  | nil => exact fun c none => absurd none (Option.not_mem_none c)
  | cons first rest =>
    obtain ⟨a, more, octets, above⟩ := Encoding.exists_utf8Char_of_high (high first rfl)
    have large : 0x80 ≤ a.toNat :=
      Nat.le_of_not_lt fun small => above (UInt8.lt_iff_toNat_lt.mpr small)
    have back : (Char.ofNat a.toNat).toNat = a.toNat :=
      Content.toNat_ofNat (Nat.lt_trans a.toNat_lt (by decide))
    rw [List.flatMap_cons, octets, List.cons_append]
    intro c same
    rw [← Option.mem_some.mp same, back]
    exact large

/-- Octets are decoded one by one, if they are decoded at all. -/
theorem decodeSingle_complete {limit : Nat} {octets : Bytes}
    (whole : (Encoding.decodeSingle limit octets).complete = true) :
    Encoding.decodeSingle limit octets = ⟨octetChars octets, true⟩ := by
  induction octets with
  | nil => rfl
  | cons a rest ih =>
    rw [Encoding.decodeSingle] at whole ⊢
    split_ifs at whole ⊢
    · rw [ih whole]
      rfl

/-- Octets that declare an encoding are decoded as UTF-8, one by one, or not at all. -/
theorem decodeDeclared_cases (octets : Bytes) :
    decodeDeclared octets = decodeUtf8 octets ∨ decodeDeclared octets = ⟨octetChars octets, true⟩
      ∨ decodeDeclared octets = ⟨[], false⟩ := by
  have single : ∀ {e : Encoding} {limit : Nat}, e ≠ .utf8 →
      e.decode octets = Encoding.decodeSingle limit octets →
      decodeAs e octets = ⟨octetChars octets, true⟩ ∨ decodeAs e octets = ⟨[], false⟩ := by
    intro e limit other decoded
    have parts : decodeAs e octets
        = if (e.decode octets).complete then e.decode octets else ⟨[], false⟩ := by
      cases e with
      | utf8 => exact absurd rfl other
      | _ => rfl
    rw [parts, decoded]
    split_ifs with whole
    · exact .inl (decodeSingle_complete whole)
    · exact .inr rfl
  rw [decodeDeclared]
  cases declaredEncoding? octets with
  | none => exact .inl rfl
  | some name =>
    dsimp only
    rcases Encoding.ofName? name with _ | e
    · exact .inr (.inr rfl)
    · cases e with
      | utf8 => exact .inl rfl
      | latin1 => exact .inr (single (by decide) rfl)
      | ascii => exact .inr (single (by decide) rfl)
      | utf16 | utf16le | utf16be => exact .inr (.inr rfl)

/-! ## Emptiness -/

/-- A character is a filler when its octets are. -/
theorem all_isFiller_utf8Char (c : Char) :
    ((utf8Char c).all fun b => Content.isFiller b.toNat) = Content.isFiller c.toNat := by
  rcases Nat.lt_or_ge c.toNat 0x80 with low | high
  · have octet : c.toNat < 256 := by omega
    rw [Encoding.utf8Char_of_low low, List.all_cons, List.all_nil, Bool.and_true,
      UInt8.toNat_ofNat_of_lt' octet]
  · obtain ⟨a, more, octets, above⟩ := Encoding.exists_utf8Char_of_high high
    have noFiller : ∀ {n : Nat}, 0x80 ≤ n → Content.isFiller n = false := by
      intro n large
      rw [← Bool.not_eq_true]
      intro filler
      exact absurd (Content.lt_of_isFiller filler) (by omega)
    have large : 0x80 ≤ a.toNat :=
      Nat.le_of_not_lt fun small => above (UInt8.lt_iff_toNat_lt.mpr small)
    rw [octets, List.all_cons, noFiller large, Bool.false_and, noFiller high]

/-- A text is empty when its octets are. -/
theorem Content.isEmpty_encode (s : String) :
    (Content.bytes (s.toList.flatMap utf8Char)).isEmpty = (Content.text s).isEmpty := by
  rw [Content.isEmpty, Content.isEmpty, List.all_flatMap]
  exact congrArg s.toList.all (funext all_isFiller_utf8Char)

end PrivilegeCatalog.Xml
