import Mathlib.Data.List.TakeWhile
import PrivilegeCatalog.Privilege

/-!
# Names

A name is determined by its text (`Name.eq_of_text`). Outer blanks are all that is cut off when a
name is read (`Text.trim_of_not_blank`), and no word character is a blank
(`Text.not_blank_of_isWord`).
-/

namespace PrivilegeCatalog

namespace Name

theorem ofText_eq_ok {text : String} {name : Name} :
    Name.ofText text = .ok name ↔ name.text = text := by
  constructor
  · intro made
    unfold Name.ofText at made
    split at made
    · cases made
      rfl
    · cases made
  · intro same
    subst same
    unfold Name.ofText
    split
    · rfl
    · rename_i fault refused
      rw [name.ofText_parts] at refused
      cases refused

theorem eq_of_text {a b : Name} (same : a.text = b.text) : a = b := by
  cases a
  cases b
  simp only at same
  subst same
  rfl

theorem text_ne_empty (name : Name) : name.text ≠ "" := by
  intro empty
  have valid := name.valid
  rw [empty] at valid
  revert valid
  decide

end Name

namespace Text

variable {cs : List Char}

theorem dropWhile_of_not_blank (none : ∀ c ∈ cs, isBlank c = false) :
    cs.dropWhile isBlank = cs := by
  cases cs with
  | nil => rfl
  | cons c rest =>
    rw [List.dropWhile_cons_of_neg]
    rw [none c (List.mem_cons_self ..)]
    exact Bool.false_ne_true

/-- A text without blanks is kept. -/
theorem trim_of_not_blank {s : String} (none : ∀ c ∈ s.toList, isBlank c = false) :
    trim s = s := by
  have reversed : ∀ c ∈ s.toList.reverse, isBlank c = false :=
    fun c inside => none c (List.mem_reverse.mp inside)
  rw [trim, trimBy, dropWhile_of_not_blank none, dropWhile_of_not_blank reversed,
    List.reverse_reverse, String.ofList_toList]

/-- What is left of a text does not end in a blank. -/
theorem not_blank_of_getLast?_trim {s : String} {c : Char}
    (last : (trim s).toList.getLast? = some c) : isBlank c = false := by
  rw [trim, String.toList_ofList, trimBy, List.getLast?_reverse] at last
  have first := List.head?_dropWhile_not isBlank (s.toList.dropWhile isBlank).reverse
  rw [last] at first
  simpa using first

/-- The code points of blanks. -/
def blanks : List Nat :=
  [9, 10, 11, 12, 13, 0x1C, 0x1D, 0x1E, 0x1F, 0x20, 0x85, 0xA0, 0x1680, 0x2000, 0x2001, 0x2002,
    0x2003, 0x2004, 0x2005, 0x2006, 0x2007, 0x2008, 0x2009, 0x200A, 0x2028, 0x2029, 0x202F,
    0x205F, 0x3000]

theorem mem_blanks {c : Char} (blank : isBlank c = true) : c.toNat ∈ blanks := by
  simp only [isBlank, Bool.or_eq_true, Bool.and_eq_true, decide_eq_true_iff, beq_iff_eq,
    or_assoc] at blank
  simp only [blanks, List.mem_cons, List.not_mem_nil, or_false]
  rcases blank with _ | _ | _ | _ | _ | _ | _ | _ | _ | _ | _ <;> omega

/-- No word character is blank. -/
theorem not_blank_of_isWord {c : Char} (word : isWord c = true) : isBlank c = false := by
  have apart : ∀ n ∈ blanks, wordRanges.contains n = false := by decide +kernel
  rw [← Bool.not_eq_true]
  intro blank
  rw [isWord, apart _ (mem_blanks blank)] at word
  exact Bool.false_ne_true word

end Text

end PrivilegeCatalog
