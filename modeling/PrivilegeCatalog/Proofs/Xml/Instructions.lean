import PrivilegeCatalog.Proofs.Xml.DeclaredName
import PrivilegeCatalog.Proofs.Xml.Telling

/-!
# Scanning a declaration

After a declaration that is read, a scan knows the line and whether the document stands alone, and
nothing else (`ofChars_declaration`). A document whose declaration does not end, or goes on with a
character that no declaration has, tells nothing and is no whole document (`ofChars_unclosed`).
-/

namespace PrivilegeCatalog.Xml

open Text (isXmlBlank)

variable {stated rest : List Char} {d : Declaration}

/-! ## The instruction -/

/-- A declaration starts with a blank. -/
theorem exists_blank_of_ofText (read : Declaration.ofText stated = some d) :
    ∃ first more, isXmlBlank first = true ∧ stated = first :: more := by
  obtain ⟨quote, lead, version, rest, leads, -, rfl, -⟩ := ofText_eq_some.mp read
  cases leads with
  | @intro first more before after blanks _ _ _ =>
    exact ⟨first, _, blanks first (List.mem_cons_self ..), rfl⟩

/-- The blank at the start of a declaration ends its reserved name. -/
theorem instruction_of_blank {first : Char} (blank : isXmlBlank first = true) (more : List Char) :
    Instruction.ofText true ("xml".toList ++ first :: more)
      = (Declaration.ofText (first :: more)).map .declaration := by
  have noWord : isWordChar first = false := by
    rw [← Bool.not_eq_true]
    intro word
    rw [isXmlBlank_of_isWordChar word] at blank
    cases blank
  have name : ∀ c ∈ "xml".toList, isWordChar c = true := List.all_iff_forall_prop.mp (by decide)
  have taken : ("xml".toList ++ first :: more).takeWhile isWordChar = "xml".toList := by
    rw [List.takeWhile_append_of_pos name, List.takeWhile_cons_of_neg (by simp [noWord]),
      List.append_nil]
  have dropped : ("xml".toList ++ first :: more).dropWhile isWordChar = first :: more := by
    rw [List.dropWhile_append_of_pos name, List.dropWhile_cons_of_neg (by simp [noWord])]
  have word : word? ("xml".toList ++ first :: more) = some ("xml".toList, first :: more) := by
    have start : word? ("xml".toList ++ first :: more)
        = some (("xml".toList ++ first :: more).takeWhile isWordChar,
            ("xml".toList ++ first :: more).dropWhile isWordChar) := rfl
    rw [start, taken, dropped]
  have reserved : ("xml".toList.map Char.toLower == "xml".toList) = true := by decide
  have same : (true && "xml".toList == "xml".toList) = true := by decide
  rw [Instruction.ofText, word, Option.bind_eq_bind, Option.bind_some]
  dsimp only
  rw [reserved, if_pos rfl, same, if_pos rfl]
  cases Declaration.ofText (first :: more) <;> rfl

theorem instruction_of_ofText (read : Declaration.ofText stated = some d) :
    Instruction.ofText true ("xml".toList ++ stated) = some (.declaration d) := by
  obtain ⟨first, more, blank, same⟩ := exists_blank_of_ofText read
  rw [same] at read ⊢
  rw [instruction_of_blank blank, read]
  rfl

/-- What goes on with a character that no declaration has is no instruction. -/
theorem instruction_of_not_isDeclaring (read : Declaration.ofText stated = some d) {c : Char}
    (other : ¬ IsDeclaring c) (more : List Char) :
    Instruction.ofText true ("xml".toList ++ (stated ++ c :: more)) = none := by
  obtain ⟨first, others, blank, same⟩ := exists_blank_of_ofText read
  have refused : Declaration.ofText (stated ++ c :: more) = none := by
    rw [Option.eq_none_iff_forall_not_mem]
    intro d' read'
    exact other (isDeclaring_of_ofText read' c (List.mem_append_right _ (List.mem_cons_self ..)))
  rw [same] at refused ⊢
  rw [List.cons_append] at refused ⊢
  rw [instruction_of_blank blank, refused]
  rfl

/-! ## Scanning -/

/-- How the references of a document are looked up. -/
abbrev resolving : Refer := fun doctype => referTo (doctype.entities.length + 1) doctype

/-- The scan in an instruction that started the document. -/
def instructing (soFar : List Char) (line : Nat) : Scan :=
  { mode := .instruction true soFar, stage := .prolog, line }

theorem isDeclaring_xml : ∀ c ∈ "xml".toList, IsDeclaring c :=
  List.all_iff_forall_prop.mp (by decide)

/-- The characters of a declaration are held up to its end. -/
theorem run_declaration (read : Declaration.ofText stated = some d) (rest : List Char) :
    Scan.ofChars ("<?xml".toList ++ (stated ++ rest))
      = (instructing ("xml".toList ++ stated).reverse
        (1 + stated.count '\n')).run resolving rest := by
  have chars : ∀ c ∈ "xml".toList ++ stated, IsDeclaring c :=
    List.forall_mem_append.mpr ⟨isDeclaring_xml, isDeclaring_of_ofText read⟩
  have went :=
    @Writing.run_instruction resolving { stage := .prolog } true ("xml".toList ++ stated) []
    (by simp) fun c inside => ⟨(chars c inside).character, (chars c inside).apart.2⟩
  have lines : ("xml".toList ++ stated).count '\n' = stated.count '\n' := by
    rw [List.count_append]
    exact Nat.zero_add _
  have shape : "<?xml".toList ++ (stated ++ rest)
      = ['<', '?'] ++ (("xml".toList ++ stated) ++ rest) := rfl
  have opened : Scan.run resolving {} ['<', '?']
      = { mode := .instruction true [], stage := .prolog } := rfl
  have whole : Scan.ofChars ("<?xml".toList ++ (stated ++ rest))
      = Scan.run resolving {} (['<', '?'] ++ (("xml".toList ++ stated) ++ rest)) := rfl
  rw [whole, Scan.run_append, opened, Scan.run_append, went, lines, List.append_nil]
  rfl

/-- A scan goes on after a declaration with its line, and with whether the document stands
alone. -/
theorem ofChars_declaration (read : Declaration.ofText stated = some d) (rest : List Char) :
    Scan.ofChars ("<?xml".toList ++ (stated ++ '?' :: '>' :: rest))
      = Scan.run resolving
          { stage := .prolog, line := 1 + stated.count '\n', standalone := d.standalone }
            rest := by
  have marked :
    (instructing ("xml".toList ++ stated).reverse (1 + stated.count '\n')).step resolving '?'
      = instructing ('?' :: ("xml".toList ++ stated).reverse) (1 + stated.count '\n') := rfl
  have closed : (instructing ('?' :: ("xml".toList ++ stated).reverse)
        (1 + stated.count '\n')).step resolving '>'
      = { stage := .prolog, line := 1 + stated.count '\n', standalone := d.standalone } := by
    rw [Scan.step_eq (by decide), Scan.stepMode, instructing]
    dsimp only
    rw [Scan.stepInstruction, Scan.instruct, List.reverse_reverse, instruction_of_ofText read]
    rfl
  rw [run_declaration read, Scan.run_cons, marked, Scan.run_cons, closed]

/-! ## Declarations that do not end -/

/-- The scan is in an instruction that starts with the given characters, or it has come to a fault
of form; nothing has been told. -/
structure Unclosed (lead : List Char) (s : Scan) : Prop where
  events : s.events = []
  mode : s.mode = .broken ∨ ∃ soFar, s.mode = .instruction true soFar ∧ lead <+: soFar.reverse

theorem Unclosed.weaken {lead lead' : List Char} {s : Scan} (unclosed : Unclosed lead' s)
    (begins : lead <+: lead') : Unclosed lead s :=
  ⟨unclosed.events, unclosed.mode.imp_right fun ⟨soFar, mode, held⟩ =>
    ⟨soFar, mode, begins.trans held⟩⟩

/-- A character that does not end the instruction is held, unless no document has it. -/
theorem unclosed_step_of_open {s : Scan} {soFar : List Char} {c : Char} (events : s.events = [])
    (mode : s.mode = .instruction true soFar) (open_ : ∀ text, soFar = '?' :: text → c ≠ '>')
    (resolve : Refer) : Unclosed (c :: soFar).reverse (s.step resolve c) := by
  have stepped : s.stepMode resolve c = s.stepInstruction true soFar c := by
    rw [Scan.stepMode, mode]
  rw [Scan.step]
  split
  case isFalse => exact ⟨events, .inl rfl⟩
  case isTrue =>
    rw [stepped]
    refine ⟨Scan.events_stepInstruction.trans events, ?_⟩
    unfold Scan.stepInstruction
    split
    case h_1 text _ => exact absurd rfl (open_ text rfl)
    case h_2 => exact .inr ⟨c :: soFar, rfl, List.prefix_rfl⟩

/-- An instruction that starts with what no instruction starts with is closed by a fault only. -/
theorem Unclosed.step {lead : List Char} {s : Scan} (unclosed : Unclosed lead s) (resolve : Refer)
    (noMark : lead.getLast? ≠ some '?')
    (refused : ∀ more, Instruction.ofText true (lead ++ more) = none) (c : Char) :
    Unclosed lead (s.step resolve c) := by
  obtain ⟨events, broken | ⟨soFar, mode, begins⟩⟩ := unclosed
  · exact ⟨(Scan.events_step_of_text (.inl broken)).trans events,
      .inl (Scan.step_of_broken broken)⟩
  by_cases closes : ∃ text, soFar = '?' :: text ∧ c = '>'
  · obtain ⟨text, rfl, rfl⟩ := closes
    -- The mark before the end is no part of the text, and the start does not end with it.
    rw [List.reverse_cons, List.prefix_concat_iff] at begins
    obtain ⟨more, same⟩ := begins.resolve_left fun whole => by
      rw [whole, List.getLast?_concat] at noMark
      exact noMark rfl
    have fails : Instruction.ofText true text.reverse = none := same ▸ refused more
    have closed : s.stepMode resolve '>' = s.fail := by
      rw [Scan.stepMode, mode]
      dsimp only
      rw [Scan.stepInstruction, Scan.instruct, fails]
    rw [Scan.step_eq (by decide), closed]
    exact ⟨events, .inl rfl⟩
  · have open_ : ∀ text, soFar = '?' :: text → c ≠ '>' :=
      fun text same ends => closes ⟨text, same, ends⟩
    refine (unclosed_step_of_open events mode open_ resolve).weaken ?_
    rw [List.reverse_cons]
    exact begins.trans (List.prefix_append _ _)

theorem Unclosed.run {lead : List Char} {s : Scan} (unclosed : Unclosed lead s) (resolve : Refer)
    (noMark : lead.getLast? ≠ some '?')
    (refused : ∀ more, Instruction.ofText true (lead ++ more) = none) (cs : List Char) :
    Unclosed lead (s.run resolve cs) := by
  induction cs generalizing s with
  | nil => exact unclosed
  | cons c rest ih => exact ih (unclosed.step resolve noMark refused c)

/-- A scan in such an instruction is none of a whole document, and it tells nothing. -/
theorem Unclosed.document {lead cs : List Char} (unclosed : Unclosed lead (Scan.ofChars cs)) :
    Document.ofChars cs = ⟨[], false⟩ := by
  obtain ⟨events, mode⟩ := unclosed
  have atRest : (Scan.ofChars cs).isAtRest = false := by
    rcases mode with mode | ⟨soFar, mode, -⟩
    · rw [Scan.isAtRest, mode]
    · rw [Scan.isAtRest, mode]
  rw [Document.ofChars, events, Scan.isWhole, atRest]
  rfl

/-- A document tells nothing when its declaration does not end, or goes on with a character that
is not of ASCII. -/
theorem ofChars_unclosed (read : Declaration.ofText stated = some d)
    (ends : ∀ c ∈ rest.head?, 0x80 ≤ c.toNat) :
    Document.ofChars ("<?xml".toList ++ (stated ++ rest)) = ⟨[], false⟩ := by
  have begun := run_declaration read rest
  cases rest with
  | nil =>
    have unclosed : Unclosed [] (Scan.ofChars ("<?xml".toList ++ (stated ++ []))) := by
      rw [begun]
      exact ⟨rfl, .inr ⟨_, rfl, List.nil_prefix⟩⟩
    exact unclosed.document
  | cons c more =>
    have high : 0x80 ≤ c.toNat := ends c rfl
    have other : ¬ IsDeclaring c := fun declaring => absurd declaring.low (by omega)
    have noMark : ("xml".toList ++ (stated ++ [c])).getLast? ≠ some '?' := by
      rw [← List.append_assoc, List.getLast?_concat]
      rintro ⟨⟩
      exact absurd high (by decide)
    have refused :
        ∀ more, Instruction.ofText true ("xml".toList ++ (stated ++ [c]) ++ more) = none := by
      intro more
      have fails := instruction_of_not_isDeclaring read other more
      rwa [← List.singleton_append, ← List.append_assoc stated, ← List.append_assoc] at fails
    have open_ : c ≠ '>' := by
      rintro ⟨⟩
      exact absurd high (by decide)
    have held := @unclosed_step_of_open (instructing ("xml".toList ++ stated).reverse
      (1 + stated.count '\n')) _ c rfl rfl (fun _ _ => open_) resolving
    rw [List.reverse_cons, List.reverse_reverse, List.append_assoc] at held
    have unclosed := held.run resolving noMark refused more
    rw [← Scan.run_cons, ← begun] at unclosed
    exact unclosed.document

end PrivilegeCatalog.Xml
