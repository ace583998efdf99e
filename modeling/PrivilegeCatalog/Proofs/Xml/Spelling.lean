import Mathlib.Data.List.Basic
import PrivilegeCatalog.Proofs.Xml.Escaping

/-!
# Spellings are read back

An encoding that lacks a character has a reference to it in its place. So a text is spelled in as
many ways as there are sets of characters (`spelled`), and an escaped value is read as the same
value in all of them (`isEscape_spelledValue`). ASCII characters are spelled as themselves, and
with them all markup, the escapes and the references.
-/

namespace PrivilegeCatalog.Xml

/-! ## Numeric references -/

theorem digitValue_of_isDigit {c : Char} (digit : c.isDigit = true) :
    digitValue c = c.toNat - '0'.toNat ∧ digitValue c < 10 := by
  obtain ⟨-, high⟩ := Char.isDigit_iff_toNat.mp digit
  have nine : '9'.toNat = 57 := rfl
  have value : digitValue c = c.toNat - 0x30 := if_pos digit
  have zero : '0'.toNat = 0x30 := rfl
  rw [value, zero]
  omega

/-- A number is read back from its decimal digits. -/
theorem number?_toDigits (n : Nat) : number? 10 (Nat.toDigits 10 n) = some n := by
  have digits : ∀ c ∈ Nat.toDigits 10 n, c.isDigit = true :=
    fun c inside => Nat.isDigit_of_mem_toDigits (by decide) (by decide) inside
  have some_ : (Nat.toDigits 10 n).isEmpty = false :=
    List.isEmpty_eq_false_iff.mpr Nat.toDigits_ne_nil
  have small : ((Nat.toDigits 10 n).all fun c => digitValue c < 10) = true :=
    List.all_eq_true.mpr fun c inside =>
      decide_eq_true (digitValue_of_isDigit (digits c inside)).2
  have sum : (Nat.toDigits 10 n).foldl (fun n c => n * 10 + digitValue c) 0 = n := by
    refine Eq.trans ?_ (@Nat.ofDigitChars_ten_toDigits n)
    rw [Nat.ofDigitChars_eq_foldl]
    refine List.foldl_ext _ _ _ fun m c inside => ?_
    rw [(digitValue_of_isDigit (digits c inside)).1, Nat.mul_comm]
  rw [number?, some_, small, sum]
  rfl

theorem xmlChar?_toNat {c : Char} (character : isXmlChar c = true) :
    xmlChar? c.toNat = some c := by
  have valid : c.toNat < 0xD800 ∨ 0xE000 ≤ c.toNat ∧ c.toNat < 0x110000 := by
    obtain low | ⟨high, bound⟩ := c.valid
    · exact .inl low
    · refine .inr ⟨?_, bound⟩
      have above : 0xDFFF < c.toNat := high
      omega
  rw [xmlChar?, if_pos valid]
  dsimp only
  rw [Char.ofNat_toNat, if_pos character]

/-- The number of a character refers to it. -/
theorem refersTo_number {c : Char} (character : isXmlChar c = true) :
    RefersTo ('#' :: Nat.toDigits 10 c.toNat) c := by
  left
  rw [Reference.ofText.eq_def]
  split
  case h_1 digits same =>
    have inside : 'x' ∈ Nat.toDigits 10 c.toNat := by
      rw [(List.cons.inj same).2]
      exact List.mem_cons_self ..
    have digit : 'x'.isDigit = true :=
      Nat.isDigit_of_mem_toDigits (by decide) (by decide) inside
    cases digit
  case h_2 digits _ same =>
    rw [← (List.cons.inj same).2, number?_toDigits, Option.bind_some, xmlChar?_toNat character]
    rfl
  case h_3 other => exact (other _ rfl).elim

theorem isBody_number (n : Nat) : IsBody ('#' :: Nat.toDigits 10 n) := by
  have plain : ∀ d : Char, d.isDigit = true → (ValueChar d ∧ d ≠ '\r') ∧ d ≠ ';' := by
    intro d digit
    obtain ⟨low, high⟩ := Char.isDigit_iff_toNat.mp digit
    have other : ∀ e : Char, e.isDigit = false → d ≠ e := by
      intro e noDigit same
      rw [same, noDigit] at digit
      cases digit
    have character : isXmlChar d = true := by
      have zero : '0'.toNat = 48 := rfl
      have nine : '9'.toNat = 57 := rfl
      simp only [isXmlChar, Bool.or_eq_true, Bool.and_eq_true, decide_eq_true_eq, beq_iff_eq]
      omega
    exact ⟨⟨⟨⟨character, other _ rfl, other _ rfl⟩, other _ rfl, other _ rfl⟩, other _ rfl⟩,
      other _ rfl⟩
  have digits : ∀ d ∈ Nat.toDigits 10 n, d.isDigit = true :=
    fun d inside => Nat.isDigit_of_mem_toDigits (by decide) (by decide) inside
  refine ⟨List.forall_mem_cons.mpr ⟨by decide, fun d inside => (plain d (digits d inside)).1⟩, ?_⟩
  rw [List.mem_cons, not_or]
  exact ⟨by decide, fun inside => (plain _ (digits _ inside)).2 rfl⟩

theorem numericReference_eq (c : Char) :
    numericReference c = '&' :: ('#' :: Nat.toDigits 10 c.toNat ++ [';']) := by
  rw [numericReference, Nat.toString_eq_ofList_toDigits, String.toList_ofList, List.cons_append]

/-- A reference by number stands for its character. -/
theorem escaped_numericReference (bare : Char → Prop) {c : Char}
    (character : isXmlChar c = true) : Escaped bare c (numericReference c) := by
  rw [numericReference_eq]
  exact .reference (isBody_number c.toNat) (refersTo_number character)

/-! ## Spellings -/

/-- What holds of the code points of ASCII holds of its characters. -/
theorem forall_ascii {P : Char → Prop} (all : ∀ n < 0x80, P (Char.ofNat n)) {c : Char}
    (low : c.toNat < 0x80) : P c := by
  have own := all c.toNat low
  rwa [Char.ofNat_toNat] at own

/-- A text of ASCII characters only. -/
def IsAscii (cs : List Char) : Prop := ∀ c ∈ cs, c.toNat < 0x80

instance (cs : List Char) : Decidable (IsAscii cs) :=
  decidable_of_iff ((cs.all fun c => c.toNat < 0x80) = true) List.all_iff_forall_prop

/-- A text in which there are references to the characters that are lacking. -/
def spelled (has : Char → Bool) (cs : List Char) : List Char :=
  cs.flatMap fun c => if has c then [c] else numericReference c

/-- No ASCII character is lacking. -/
def HasAscii (has : Char → Bool) : Prop := ∀ c : Char, c.toNat < 0x80 → has c = true

section

variable {has : Char → Bool} {cs : List Char}

theorem spelled_append (first second : List Char) :
    spelled has (first ++ second) = spelled has first ++ spelled has second :=
  List.flatMap_append

theorem spelled_cons (c : Char) (rest : List Char) :
    spelled has (c :: rest) = (if has c then [c] else numericReference c) ++ spelled has rest :=
  List.flatMap_cons

theorem spelled_flatMap {α : Type} (f : α → List Char) (xs : List α) :
    spelled has (xs.flatMap f) = xs.flatMap fun x => spelled has (f x) :=
  List.flatMap_assoc

/-- A text of which no character is lacking is spelled as it is. -/
theorem spelled_of_has (all : ∀ c ∈ cs, has c = true) : spelled has cs = cs := by
  induction cs with
  | nil => rfl
  | cons c rest ih =>
    obtain ⟨first, others⟩ := List.forall_mem_cons.mp all
    rw [spelled_cons, if_pos first, ih others, List.singleton_append]

theorem spelled_of_ascii (ascii : HasAscii has) (all : IsAscii cs) :
    spelled has cs = cs :=
  spelled_of_has fun c inside => ascii c (all c inside)

/-- The numeric reference to a character is written in ASCII. -/
theorem ascii_numericReference (c : Char) : IsAscii (numericReference c) := by
  intro d inside
  rw [numericReference_eq] at inside
  rcases List.mem_cons.mp inside with same | inside
  · rw [same]
    decide
  · rcases List.mem_append.mp inside with inside | last
    · rcases List.mem_cons.mp inside with same | inside
      · rw [same]
        decide
      · have digit : d.isDigit = true :=
          Nat.isDigit_of_mem_toDigits (by decide) (by decide) inside
        have high := (Char.isDigit_iff_toNat.mp digit).2
        have nine : '9'.toNat = 57 := rfl
        omega
    · rw [List.mem_singleton.mp last]
      decide

/-! ## Values -/

/-- A way to write values that is read back. -/
structure IsEscape (escape : List Char → List Char) : Prop where
  chars : ∀ {cs : List Char}, XmlChars cs → ∀ c ∈ escape cs, ValueChar c
  value : ∀ {cs : List Char}, XmlChars cs → ∀ standalone allowance,
    attributeValue {} standalone (escape cs) allowance = some (cs, allowance)

theorem isEscape_escapeValue : IsEscape escapeValue :=
  ⟨valueChar_of_escapeValue, fun _ standalone => attributeValue_escapeValue standalone _⟩

/-- Characters that are not of ASCII are not escaped. -/
theorem bareInValue_of_high {c : Char} (high : 0x80 ≤ c.toNat) : BareInValue c := by
  have other : ∀ d : Char, d.toNat < 0x80 → c ≠ d := by
    intro d low same
    rw [same] at high
    omega
  exact ⟨other _ (by decide), other _ (by decide), other _ (by decide), other _ (by decide),
    other _ (by decide), other _ (by decide), other _ (by decide)⟩

theorem escapeValueChar_of_bare {c : Char} (bare : BareInValue c) : escapeValueChar c = [c] := by
  obtain ⟨amp, lt, gt, quot, tab, feed, ret⟩ := bare
  rw [escapeValueChar, if_neg amp, if_neg lt, if_neg gt, if_neg quot,
    if_neg (by simp [tab, feed, ret])]

/-- The escapes of ASCII characters are written in ASCII. -/
theorem ascii_escapeValueChar {c : Char} (low : c.toNat < 0x80) :
    IsAscii (escapeValueChar c) := by
  have all : ∀ n < 0x80, IsAscii (escapeValueChar (Char.ofNat n)) := by
    decide +kernel
  exact forall_ascii (P := fun c => IsAscii (escapeValueChar c)) all low

/-- An escaped character stands for the same character in each spelling. -/
theorem escaped_spelled (ascii : HasAscii has) {c : Char} (character : isXmlChar c = true) :
    Escaped BareInValue c (spelled has (escapeValueChar c)) := by
  rcases Nat.lt_or_ge c.toNat 0x80 with low | high
  · rw [spelled_of_ascii ascii (ascii_escapeValueChar low)]
    exact escaped_value c
  · have bare := bareInValue_of_high high
    rw [escapeValueChar_of_bare bare, spelled_cons, spelled, List.flatMap_nil, List.append_nil]
    split
    · exact .itself bare
    · exact escaped_numericReference _ character

/-- A value between its quotes when characters are lacking. -/
def spelledValue (has : Char → Bool) (cs : List Char) : List Char := spelled has (escapeValue cs)

/-- A value is read from each of its spellings. -/
theorem isEscape_spelledValue (ascii : HasAscii has) : IsEscape (spelledValue has) := by
  have pieces : ∀ cs, spelledValue has cs
      = cs.flatMap fun c => spelled has (escapeValueChar c) :=
    fun cs => spelled_flatMap escapeValueChar cs
  refine ⟨fun text => ?_, fun text standalone allowance => ?_⟩
  · rw [pieces]
    exact valueChar_of_escaped text fun c inside => escaped_spelled ascii (text c inside)
  · rw [pieces]
    exact attributeValue_of_escaped (fun c inside => escaped_spelled ascii (text c inside))
      standalone allowance

end

end PrivilegeCatalog.Xml
