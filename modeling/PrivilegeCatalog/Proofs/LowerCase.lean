import Mathlib.Data.List.Basic
import PrivilegeCatalog.Proofs.Utf8

/-!
# Lower case and ASCII

A text of ASCII is put down as a whole when its ASCII letters are (`lower_of_ascii`). Beyond ASCII
there are capitals whose lower-case form is in part or as a whole of ASCII: the dotted I, whose
form has a second character, and the sign for Kelvin, whose form is the letter k. So a word of
ASCII that has no k is the lower-case form of those texts alone that differ from it in the case of
ASCII letters (`lower_eq_iff`).
-/

namespace PrivilegeCatalog.Text

/-! ## One character -/

/-- A character is no capital, or is the dotted one, or comes in a run of capitals. -/
theorem lowerChar_cases (c : Char) :
    lowerChar c = [c] ∨ lowerChar c = ['i', '\u0307']
      ∨ ∃ run ∈ capitalRuns, run.1 ≤ c.toNat ∧ c.toNat ≤ run.2.1
          ∧ lowerChar c = [Char.ofNat (run.2.2.2 + (c.toNat - run.1))] := by
  unfold lowerChar
  split
  case isTrue => exact .inr (.inl rfl)
  case isFalse =>
    split
    case h_1 first last step small found =>
      have bounds := List.find?_some found
      simp only [Bool.and_eq_true, decide_eq_true_eq] at bounds
      exact .inr (.inr ⟨_, List.mem_of_find?_eq_some found, bounds.1.1, bounds.1.2, rfl⟩)
    case h_2 => exact .inl rfl

/-- Only the first run of capitals is in ASCII. -/
theorem lowerChar_of_ascii {c : Char} (low : c.toNat < 0x80) : lowerChar c = [lowerAscii c] := by
  have later : ∀ run ∈ capitalRuns.tail, 0x80 ≤ run.1 := by decide +kernel
  have none : capitalRuns.tail.find? (fun run =>
      run.1 ≤ c.toNat && c.toNat ≤ run.2.1 && (c.toNat - run.1) % run.2.2.1 == 0) = none := by
    rw [List.find?_eq_none]
    intro run inside
    have above := later run inside
    have out : ¬ run.1 ≤ c.toNat := by omega
    simp [out]
  have runs : capitalRuns = (0x41, 0x5A, 1, 0x61) :: capitalRuns.tail := rfl
  have capital : ('A' ≤ c && c ≤ 'Z') = (0x41 ≤ c.toNat && c.toNat ≤ 0x5A) := rfl
  have notDotted : c ≠ 'İ' := by
    intro same
    rw [same] at low
    revert low
    decide
  rw [lowerChar, if_neg notDotted, runs, List.find?_cons, lowerAscii, capital]
  by_cases bounds : (0x41 ≤ c.toNat && c.toNat ≤ 0x5A) = true
  · have whole : 0x61 + (c.toNat - 0x41) = c.toNat + 32 := by
      have := (Bool.and_eq_true_iff.mp bounds).1
      simp only [decide_eq_true_eq] at this
      omega
    simp [bounds, Nat.mod_one, whole]
  · simp [bounds, none]

theorem lowerAscii_of_high {c : Char} (high : 0x80 ≤ c.toNat) : lowerAscii c = c := by
  have beyond : ¬ c ≤ 'Z' := by
    intro bound
    have bound' : c.toNat ≤ 0x5A := bound
    omega
  rw [lowerAscii, decide_eq_false beyond, Bool.and_false, if_neg Bool.false_ne_true]

/-- What a run of capitals beyond ASCII is put down to is beyond ASCII, save for the sign for
Kelvin. -/
structure HighRun (run : Nat × Nat × Nat × Nat) : Prop where
  high : 0x80 ≤ run.2.2.2
  characters : run.2.2.2 + (run.2.1 - run.1) < 0xD800
    ∨ 0xDFFF < run.2.2.2 ∧ run.2.2.2 + (run.2.1 - run.1) < 0x110000

theorem run_cases : ∀ run ∈ capitalRuns,
    run.2.1 < 0x80 ∨ run = (0x212A, 0x212A, 1, 0x6B) ∨ HighRun run := by
  have all : ∀ run ∈ capitalRuns, run.2.1 < 0x80 ∨ run = (0x212A, 0x212A, 1, 0x6B)
      ∨ 0x80 ≤ run.2.2.2 ∧ (run.2.2.2 + (run.2.1 - run.1) < 0xD800
        ∨ 0xDFFF < run.2.2.2 ∧ run.2.2.2 + (run.2.1 - run.1) < 0x110000) := by
    decide +kernel
  intro run inside
  rcases all run inside with ascii | kelvin | ⟨high, characters⟩
  · exact .inl ascii
  · exact .inr (.inl kelvin)
  · exact .inr (.inr ⟨high, characters⟩)

/-- A character beyond ASCII is put down to something that is not all of ASCII, or is the sign for
Kelvin. -/
theorem lowerChar_of_high {c : Char} (high : 0x80 ≤ c.toNat) :
    (∃ d ∈ lowerChar c, 0x80 ≤ d.toNat) ∨ lowerChar c = ['k'] := by
  rcases lowerChar_cases c with same | dotted | ⟨run, inside, from_, to_, form⟩
  · exact .inl ⟨c, by rw [same]; exact List.mem_singleton_self c, high⟩
  · exact .inl ⟨'\u0307', by rw [dotted]; decide, by decide⟩
  · rcases run_cases run inside with ascii | kelvin | ⟨high, characters⟩
    · omega
    · subst kelvin
      have point : c.toNat = 0x212A := Nat.le_antisymm to_ from_
      right
      rw [form, point]
      rfl
    · left
      have valid : (run.2.2.2 + (c.toNat - run.1)).isValidChar := by
        unfold Nat.isValidChar
        omega
      refine ⟨_, by rw [form]; exact List.mem_singleton_self _, ?_⟩
      rw [Encoding.toNat_ofNat valid]
      omega

/-! ## Texts -/

theorem lowerSigma_high (before after : List Char) : 0x80 ≤ (lowerSigma before after).toNat := by
  unfold lowerSigma
  split <;> decide

/-- A text of ASCII has no sigma, so its characters do not look at their neighbours. -/
theorem lowerAfter_of_ascii {before cs : List Char} (ascii : ∀ c ∈ cs, c.toNat < 0x80) :
    lowerAfter before cs = cs.map lowerAscii := by
  induction cs generalizing before with
  | nil => rfl
  | cons c rest ih =>
    obtain ⟨low, lows⟩ := List.forall_mem_cons.mp ascii
    have noSigma : c ≠ 'Σ' := by
      intro same
      rw [same] at low
      exact absurd low (by decide)
    rw [lowerAfter, if_neg noSigma, lowerChar_of_ascii low, ih lows]
    rfl

/-- A text of ASCII is put down as a whole when its ASCII letters are. -/
theorem lower_of_ascii {s : String} (ascii : ∀ c ∈ s.toList, c.toNat < 0x80) :
    lower s = foldAscii s := by
  rw [lower, foldAscii, lowerAfter_of_ascii ascii]

/-- A character beyond ASCII leaves a trace in the lower-case form of a text. -/
theorem exists_of_high (before : List Char) {cs : List Char} {c : Char} (inside : c ∈ cs)
    (high : 0x80 ≤ c.toNat) : ∃ d ∈ lowerAfter before cs, 0x80 ≤ d.toNat ∨ d = 'k' := by
  induction cs generalizing before with
  | nil => cases inside
  | cons first rest ih =>
    rw [lowerAfter]
    rcases List.mem_cons.mp inside with same | later
    · subst same
      by_cases sigma : c = 'Σ'
      · rw [if_pos sigma]
        exact ⟨_, List.mem_append_left _ (List.mem_singleton_self _), .inl (lowerSigma_high _ _)⟩
      · rw [if_neg sigma]
        rcases lowerChar_of_high high with ⟨d, among, trace⟩ | kelvin
        · exact ⟨d, List.mem_append_left _ among, .inl trace⟩
        · rw [kelvin]
          exact ⟨'k', List.mem_append_left _ (List.mem_singleton_self _), .inr rfl⟩
    · obtain ⟨d, among, trace⟩ := ih (first :: before) later
      exact ⟨d, List.mem_append_right _ among, trace⟩

/-- A word of ASCII without the letter k is the lower-case form of a text exactly when it is that
text with the case of its ASCII letters put down. -/
theorem lower_eq_iff {s word : String} (ascii : ∀ c ∈ word.toList, c.toNat < 0x80)
    (noK : 'k' ∉ word.toList) : lower s = word ↔ foldAscii s = word := by
  constructor
  · intro lowered
    have low : ∀ c ∈ s.toList, c.toNat < 0x80 := by
      intro c inside
      by_contra high
      obtain ⟨d, among, trace⟩ := exists_of_high [] inside (Nat.le_of_not_lt high)
      have inWord : d ∈ word.toList := by
        rw [← lowered, lower, String.toList_ofList]
        exact among
      rcases trace with high' | letter
      · exact absurd (ascii d inWord) (Nat.not_lt_of_le high')
      · exact noK (letter ▸ inWord)
    rw [← lower_of_ascii low, lowered]
  · intro folded
    have low : ∀ c ∈ s.toList, c.toNat < 0x80 := by
      intro c inside
      by_contra high
      have kept : c ∈ word.toList := by
        rw [← folded, foldAscii, String.toList_ofList]
        exact List.mem_map.mpr ⟨c, inside, lowerAscii_of_high (Nat.le_of_not_lt high)⟩
      exact high (ascii c kept)
    rw [lower_of_ascii low, folded]

end PrivilegeCatalog.Text
