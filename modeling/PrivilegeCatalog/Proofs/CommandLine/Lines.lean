import Mathlib.Data.Bool.AllAny
import PrivilegeCatalog.CommandLine.Running
import PrivilegeCatalog.Proofs.Console.Markup

/-!
# The lines that a command prints

The lines that tell of a valid document, of a failure and of a stored file hold markup of their
own around a text that comes from elsewhere. What a line itself opens it closes before that text,
so that its tags close what is open exactly when those of the text do, and its styles are those of
the text and one of its own (`wellClosed_verdictLine`, `wellClosed_failureLine`,
`wellClosed_storedLine`).
-/

namespace PrivilegeCatalog.CommandLine

open Console (tags WellClosed)

/-- The characters of a number are digits. -/
theorem isDigit_of_mem_toString {n : Nat} {c : Char} (inside : c ∈ (toString n).toList) :
    c.isDigit = true := by
  have digit : c ∈ Nat.toDigits 10 n := by
    rw [← Nat.toList_repr]
    exact inside
  exact Nat.isDigit_of_mem_toDigits (by decide) (by decide) digit

theorem bracket_notMem_countText (privileges : Nat) :
    ∀ c ∈ (countText privileges).toList, c ≠ '[' ∧ c ≠ '\\' ∧ c ≠ ']' := by
  intro c inside
  rw [countText, String.toList_append, List.mem_append] at inside
  rcases inside with digit | word
  · have digit := isDigit_of_mem_toString digit
    refine ⟨?_, ?_, ?_⟩ <;> rintro rfl <;> exact absurd digit (by decide)
  · have clean : ∀ c ∈ " privilege definitions".toList, c ≠ '[' ∧ c ≠ '\\' ∧ c ≠ ']' := by simp
    exact clean c word

/-- A word in a color. -/
def colored (color word : String) : String :=
  "[" ++ color ++ "]" ++ word ++ "[" ++ ("/" ++ color) ++ "]"

/-- A color is opened before its word and closed after it. -/
theorem pieces_colored {color word : String} {first : Char} {others rest : List Char}
    (named : color.toList = first :: others) (starts : Console.startsTag first = true)
    (clean : others.all (fun x => x ≠ '[' ∧ x ≠ ']') = true)
    (plain : word.toList.all (fun x => x ≠ '[' ∧ x ≠ '\\') = true) :
    Console.pieces ((colored color word).toList ++ rest)
      = .tag color.toList :: (Console.plainPiece word.toList
        ++ .tag ("/" ++ color).toList :: Console.pieces rest) := by
  rw [List.all_iff_forall_prop] at clean plain
  have closed : ∀ x ∈ color.toList, x ≠ '[' ∧ x ≠ ']' := by
    rw [named]
    exact List.forall_mem_cons.mpr ⟨Console.startsTag_ne_bracket starts, clean⟩
  have slash : ("/" ++ color).toList = '/' :: color.toList := by
    rw [String.toList_append]
    rfl
  have parts : (colored color word).toList ++ rest = [] ++ '[' :: (color.toList ++ ']' ::
      (word.toList ++ '[' :: (("/" ++ color).toList ++ ']' :: rest))) := by
    simp [colored]
  have opening : Console.tag? ('[' :: (color.toList ++ ']' :: (word.toList
      ++ '[' :: (("/" ++ color).toList ++ ']' :: rest)))) = some (color.toList, _) :=
    Console.tag?_eq_some.mpr ⟨rfl, first, others, named, starts, clean⟩
  have closing : Console.tag? ('[' :: (("/" ++ color).toList ++ ']' :: rest))
      = some (("/" ++ color).toList, rest) :=
    Console.tag?_eq_some.mpr ⟨rfl, '/', color.toList, slash, rfl, closed⟩
  rw [parts, Console.pieces_lead_tag (List.forall_mem_nil _) opening,
    Console.pieces_lead_tag plain closing]
  rfl

theorem tags_colored {color word : String} {first : Char} {others rest : List Char}
    (named : color.toList = first :: others) (starts : Console.startsTag first = true)
    (clean : others.all (fun x => x ≠ '[' ∧ x ≠ ']') = true)
    (plain : word.toList.all (fun x => x ≠ '[' ∧ x ≠ '\\') = true) :
    tags ((colored color word).toList ++ rest)
      = color.toList :: ("/" ++ color).toList :: tags rest := by
  rw [tags, pieces_colored named starts clean plain, List.filterMap_cons, List.filterMap_append,
    Console.body?_plainPiece]
  rfl

theorem greenLead : "[green]OK[/green] " = colored "green" "OK" ++ " " := by
  rw [← String.toList_inj, colored]
  simp only [String.toList_append]
  simp

theorem redLead : "[red]Error:[/red] " = colored "red" "Error:" ++ " " := by
  rw [← String.toList_inj, colored]
  simp only [String.toList_append]
  simp

theorem tags_verdictLine (source : String) (privileges : Nat) :
    tags (verdictLine source privileges).toList
      = "green".toList :: "/green".toList :: tags source.toList := by
  have tail : ']' ∉ (": " ++ countText privileges).toList := by
    rw [String.toList_append, List.mem_append, not_or]
    exact ⟨by decide, fun inside => (bracket_notMem_countText privileges _ inside).2.2 rfl⟩
  have parts : (verdictLine source privileges).toList = (colored "green" "OK").toList
      ++ (" ".toList ++ (source.toList ++ (": " ++ countText privileges).toList)) := by
    have line : verdictLine source privileges
        = colored "green" "OK" ++ " " ++ source ++ ": " ++ countText privileges :=
      congrArg (fun lead => lead ++ source ++ ": " ++ countText privileges) greenLead
    rw [line]
    simp only [String.toList_append, List.append_assoc]
  have named : "green".toList = 'g' :: "reen".toList := by simp
  rw [parts, tags_colored named rfl (by decide) (by decide), Console.tags_lead (by simp),
    Console.tags_tail tail]
  rfl

/-- The pieces of the line that tells of a failure. -/
theorem pieces_failureLine (f : Failure) :
    Console.pieces (failureLine f).toList = .tag "red".toList :: .plain "Error:".toList
      :: .tag "/red".toList :: Console.pieces (' ' :: f.text.toList) := by
  have parts : (failureLine f).toList
      = (colored "red" "Error:").toList ++ (' ' :: f.text.toList) := by
    have line : failureLine f = colored "red" "Error:" ++ " " ++ f.text :=
      congrArg (fun lead => lead ++ f.text) redLead
    have blank : " ".toList = [' '] := by simp
    rw [line, String.toList_append, String.toList_append, List.append_assoc, blank]
    rfl
  have named : "red".toList = 'r' :: "ed".toList := by simp
  rw [parts, pieces_colored named rfl (by decide) (by decide)]
  rfl

theorem tags_failureLine (f : Failure) :
    tags (failureLine f).toList = "red".toList :: "/red".toList :: tags f.text.toList := by
  have after : tags ([' '] ++ f.text.toList) = tags f.text.toList := Console.tags_lead (by simp)
  rw [List.singleton_append] at after
  rw [← after, tags, pieces_failureLine]
  rfl

theorem tags_storedLine (privileges : Nat) (path : FilePath) :
    tags (storedLine privileges path).toList = tags path.text.toList := by
  have lead : ∀ c ∈ ("Wrote " ++ countText privileges ++ " to ").toList, c ≠ '[' ∧ c ≠ '\\' := by
    intro c inside
    rw [String.toList_append, String.toList_append, List.mem_append, List.mem_append] at inside
    rcases inside with (start | count) | rest
    · have clean : ∀ c ∈ "Wrote ".toList, c ≠ '[' ∧ c ≠ '\\' := by simp
      exact clean c start
    · have clean := bracket_notMem_countText privileges c count
      exact ⟨clean.1, clean.2.1⟩
    · have clean : ∀ c ∈ " to ".toList, c ≠ '[' ∧ c ≠ '\\' := by simp
      exact clean c rest
  rw [storedLine, String.toList_append, Console.tags_lead lead]

/-! ## Lines that can be printed -/

variable {layOut : Nat → String → String} {line out : String} {evaluates : List Char → Bool}
  {isDrawn : String → Console.Span → Bool}

/-- A line is printed when it is well closed. -/
theorem printed_eq_ok :
    printed layOut line evaluates isDrawn = .ok out
      ↔ WellClosed line evaluates isDrawn
        ∧ out = layOut columns (Console.visible line) ++ "\n" := by
  rw [printed]
  constructor
  · intro done
    cases shown : Console.shown line evaluates isDrawn with
    | error fault =>
      rw [shown] at done
      cases done
    | ok text =>
      rw [shown] at done
      obtain ⟨closed, rfl⟩ := Console.shown_eq_ok.mp shown
      exact ⟨closed, (Except.ok.inj done).symm⟩
  · rintro ⟨closed, rfl⟩
    rw [Console.shown_eq_ok.mpr ⟨closed, rfl⟩]
    rfl

/-- A color that is set and taken back before a text does not keep that from being printed. -/
theorem wellClosed_colored {tag : Console.OpenTag} {opening closing : List Char} {text : String}
    (closed : WellClosed text evaluates) (opens : Console.turn [] opening = .ok (.opens tag))
    (closes : Console.turn [tag] closing = .ok (.closes 0)) (plain : tag.isHandler = false)
    (known : Console.canLookUp tag.style = true)
    (same : tags line.toList = opening :: closing :: tags text.toList) :
    WellClosed line evaluates := by
  obtain ⟨keeps, styles⟩ := Console.wellClosed_iff.mp closed
  rw [Console.wellClosed_iff, same, Console.stylesFrom_closed opens closes plain,
    List.forall_mem_cons]
  exact ⟨.closed opens closes plain keeps, known, styles⟩

theorem wellClosed_verdictLine {source : String} {privileges : Nat}
    (closed : WellClosed source evaluates) :
    WellClosed (verdictLine source privileges) evaluates := by
  have opens : Console.turn [] "green".toList = .ok (.opens ⟨"green", none⟩) := by decide +kernel
  have closes : Console.turn [⟨"green", none⟩] "/green".toList = .ok (.closes 0) := by
    decide +kernel
  exact wellClosed_colored closed opens closes (by decide +kernel) (by decide +kernel)
    (tags_verdictLine source privileges)

theorem wellClosed_failureLine {f : Failure} (closed : WellClosed f.text evaluates) :
    WellClosed (failureLine f) evaluates := by
  have opens : Console.turn [] "red".toList = .ok (.opens ⟨"red", none⟩) := by decide +kernel
  have closes : Console.turn [⟨"red", none⟩] "/red".toList = .ok (.closes 0) := by decide +kernel
  exact wellClosed_colored closed opens closes (by decide +kernel) (by decide +kernel)
    (tags_failureLine f)

theorem wellClosed_storedLine {privileges : Nat} {path : FilePath} :
    WellClosed (storedLine privileges path) ↔ WellClosed path.text := by
  rw [Console.wellClosed_iff, Console.wellClosed_iff, tags_storedLine]

end PrivilegeCatalog.CommandLine
