import PrivilegeCatalog.Proofs.LowerCase
import PrivilegeCatalog.Proofs.Writing.Elements
import PrivilegeCatalog.Proofs.Xml.Spelling
import PrivilegeCatalog.Xml.Source

/-!
# Headings

A written document names its encoding as the caller did, in whatever case. Each known name can
stand in an XML declaration (`isEncodingName_of_known`), so that a heading is read with the name
in it (`declaration_read`) and is passed over up to the root (`scan_heading`). Its characters are
ASCII.
-/

namespace PrivilegeCatalog.Writing

open Xml (Declaration Scan)

/-! ## Names of encodings -/

/-- A character that the name of an encoding may go on with. -/
def isEncodingChar (c : Char) : Bool := c.isAlphanum || "._-".toList.contains c

theorem isEncodingName_cons {c : Char} {rest : List Char} :
    Declaration.isEncodingName (c :: rest) = (c.isAlpha && rest.all isEncodingChar) := rfl

/-- A capital of ASCII is a letter. -/
theorem lowerAscii_cases (c : Char) : Text.lowerAscii c = c ∨ c.isAlpha = true := by
  unfold Text.lowerAscii
  split
  case isTrue capital =>
    right
    have bounds : 'A' ≤ c ∧ c ≤ 'Z' := by simpa using capital
    have upper : c.isUpper = true := decide_eq_true bounds
    exact Bool.or_eq_true_iff.mpr (.inl upper)
  case isFalse => exact .inl rfl

theorem isEncodingName_of_map {cs : List Char}
    (name : Declaration.isEncodingName (cs.map Text.lowerAscii) = true) :
    Declaration.isEncodingName cs = true := by
  cases cs with
  | nil => cases name
  | cons c rest =>
    rw [List.map_cons, isEncodingName_cons, Bool.and_eq_true, List.all_eq_true] at name
    rw [isEncodingName_cons, Bool.and_eq_true, List.all_eq_true]
    refine ⟨?_, fun d inside => ?_⟩
    · rcases lowerAscii_cases c with same | letter
      · rw [← same]
        exact name.1
      · exact letter
    · rcases lowerAscii_cases d with same | letter
      · rw [← same]
        exact name.2 _ (List.mem_map_of_mem inside)
      · rw [isEncodingChar, Char.isAlphanum, letter, Bool.true_or, Bool.true_or]

theorem mem_names_of_known {name : String} {e : Encoding}
    (known : Encoding.ofName? name = some e) : (Text.foldAscii name, e) ∈ Encoding.names :=
  Xml.mem_of_lookup known

/-- The names that are known can stand in an XML declaration. -/
theorem isEncodingName_of_known {name : String} {e : Encoding}
    (known : Encoding.ofName? name = some e) :
    Declaration.isEncodingName name.toList = true := by
  have all : ∀ entry ∈ Encoding.names, Declaration.isEncodingName entry.1.toList = true := by
    decide +kernel
  have folded := all _ (mem_names_of_known known)
  rw [Text.foldAscii, String.toList_ofList] at folded
  exact isEncodingName_of_map folded

/-- A character of the name of an encoding: it is of ASCII, and it ends neither a value between
single quotes nor an instruction nor a line. -/
structure IsNaming (c : Char) : Prop where
  low : c.toNat < 0x80
  character : Xml.isXmlChar c = true
  apart : c ≠ '\'' ∧ c ≠ '?' ∧ c ≠ '>' ∧ c ≠ '\n'

instance (c : Char) : Decidable (IsNaming c) :=
  decidable_of_iff (c.toNat < 0x80 ∧ Xml.isXmlChar c = true ∧ c ≠ '\'' ∧ c ≠ '?' ∧ c ≠ '>'
    ∧ c ≠ '\n') ⟨fun given => ⟨given.1, given.2.1, given.2.2⟩,
      fun given => ⟨given.low, given.character, given.apart⟩⟩

theorem low_of_isEncodingChar {c : Char} (name : isEncodingChar c = true) : c.toNat < 0x80 := by
  have below : ∀ last : Char, last.toNat < 0x80 → c.val ≤ last.val → c.toNat < 0x80 := by
    intro last low bound
    have bound' : c.toNat ≤ last.toNat := bound
    omega
  rcases Bool.or_eq_true_iff.mp name with alphanum | mark
  · rcases Bool.or_eq_true_iff.mp alphanum with letter | digit
    · rcases Bool.or_eq_true_iff.mp letter with upper | lower
      · exact below 'Z' (by decide) (of_decide_eq_true upper).2
      · exact below 'z' (by decide) (of_decide_eq_true (Bool.and_eq_true_iff.mp lower).2)
    · have high := (Char.isDigit_iff_toNat.mp digit).2
      exact below '9' (by decide) high
  · have all : Xml.IsAscii "._-".toList := by decide
    exact all c (List.contains_iff_mem.mp mark)

/-- The name of an encoding goes on with such characters from its start. -/
theorem isEncodingChar_of_mem {name : List Char}
    (named : Declaration.isEncodingName name = true) : ∀ c ∈ name, isEncodingChar c = true := by
  cases name with
  | nil => cases named
  | cons c rest =>
    rw [isEncodingName_cons, Bool.and_eq_true, List.all_eq_true] at named
    refine List.forall_mem_cons.mpr ⟨?_, named.2⟩
    rw [isEncodingChar, Char.isAlphanum, named.1, Bool.true_or, Bool.true_or]

theorem isNaming_of_isEncodingChar {c : Char} (name : isEncodingChar c = true) : IsNaming c := by
  have all : ∀ n < 0x80, isEncodingChar (Char.ofNat n) = true → IsNaming (Char.ofNat n) := by
    decide +kernel
  exact Xml.forall_ascii (P := fun c => isEncodingChar c = true → IsNaming c) all
    (low_of_isEncodingChar name) name

theorem isNaming_of_known {name : String} {e : Encoding}
    (known : Encoding.ofName? name = some e) : ∀ c ∈ name.toList, IsNaming c :=
  fun c inside => isNaming_of_isEncodingChar
    (isEncodingChar_of_mem (isEncodingName_of_known known) c inside)

/-- The encoding of a layout is the one that it names. -/
theorem checkEncoding_eq_ok {layout : Layout} {e : Encoding} :
    checkEncoding layout = .ok e ↔ Encoding.ofName? layout.encoding = some e := by
  constructor
  · intro checked
    unfold checkEncoding at checked
    split_ifs at checked
    · split at checked
      case h_1 known =>
        cases checked
        exact known
      case h_2 => cases checked
  · intro known
    have naming := isNaming_of_known known
    have others : ∀ entry ∈ Encoding.names, entry.1 ≠ "unicode" := by decide +kernel
    have other : Text.lower layout.encoding ≠ "unicode" := by
      rw [Text.lower_of_ascii fun c inside => (naming c inside).low]
      exact others _ (mem_names_of_known known)
    have text : Xml.isXmlText layout.encoding = true :=
      List.all_eq_true.mpr fun c inside => (naming c inside).character
    rw [checkEncoding, if_neg other, text, known]
    rfl

/-! ## Reading the declaration -/

theorem after?_append (lead : String) (rest : List Char) :
    Xml.after? lead (lead.toList ++ rest) = some rest := by
  have found : lead.toList.isPrefixOf (lead.toList ++ rest) = true :=
    List.isPrefixOf_iff_prefix.mpr (List.prefix_append _ _)
  rw [Xml.after?, if_pos found, ← String.length_toList, List.drop_left]

/-- A value between single quotes ends with the first of them. -/
theorem quoted?_single {value : List Char} (noQuote : '\'' ∉ value) (rest : List Char) :
    Xml.quoted? ('\'' :: (value ++ '\'' :: rest)) = some (value, rest) := by
  have others : ∀ c ∈ value, (c != '\'') = true := by
    intro c inside
    rw [bne_iff_ne]
    intro same
    exact noQuote (same ▸ inside)
  have dropped : (value ++ '\'' :: rest).dropWhile (· != '\'') = '\'' :: rest := by
    rw [List.dropWhile_append_of_pos others]
    rfl
  have taken : (value ++ '\'' :: rest).takeWhile (· != '\'') = value := by
    rw [List.takeWhile_append_of_pos others, List.takeWhile_cons_of_neg (by decide),
      List.append_nil]
  rw [Xml.quoted?, if_pos (by decide), dropped, taken]

theorem assignment?_single {key : String} {value : List Char} (noQuote : '\'' ∉ value)
    (rest : List Char) :
    Declaration.assignment? key (key.toList ++ '=' :: '\'' :: (value ++ '\'' :: rest))
      = some (value, rest) := by
  have sign : Xml.after? "=" (Xml.skipBlanks ('=' :: '\'' :: (value ++ '\'' :: rest)))
      = some ('\'' :: (value ++ '\'' :: rest)) := after?_append "=" _
  rw [Declaration.assignment?, after?_append, Option.bind_eq_bind, Option.bind_some, sign,
    Option.bind_some]
  exact quoted?_single noQuote rest

/-- What stands in a heading between its name and its end. -/
def stated (name : List Char) : List Char :=
  ' ' :: ("version".toList ++ '=' :: '\'' :: ("1.0".toList ++ '\'' ::
    (' ' :: ("encoding".toList ++ '=' :: '\'' :: (name ++ ['\''])))))

/-- A heading is read with the name in it. -/
theorem declaration_read {name : String} {e : Encoding} (known : Encoding.ofName? name = some e) :
    Declaration.ofText (stated name.toList) = some ⟨some name, false⟩ := by
  have noQuote : '\'' ∉ name.toList :=
    fun inside => (isNaming_of_known known _ inside).apart.1 rfl
  have version := @assignment?_single "version" "1.0".toList (by decide)
    (' ' :: ("encoding".toList ++ '=' :: '\'' :: (name.toList ++ ['\''])))
  have encoding := @assignment?_single "encoding" name.toList noQuote []
  have first : Xml.needBlanks (stated name.toList) = some ("version".toList ++ '=' :: '\'' ::
      ("1.0".toList
        ++ '\'' :: (' ' :: ("encoding".toList ++ '=' :: '\'' :: (name.toList ++ ['\''])))))
    := rfl
  have second :
    Xml.needBlanks (' ' :: ("encoding".toList ++ '=' :: '\'' :: (name.toList ++ ['\''])))
      = some ("encoding".toList ++ '=' :: '\'' :: (name.toList ++ ['\''])) := rfl
  have known_ : (!Declaration.isVersion "1.0".toList) = false := by decide
  rw [Declaration.ofText, first, Option.bind_eq_bind, Option.bind_some, version,
    Option.bind_eq_bind, Option.bind_some]
  dsimp only
  rw [known_, if_neg Bool.false_ne_true, second, Option.bind_some, encoding]
  dsimp only
  rw [isEncodingName_of_known known, if_pos rfl, String.ofList_toList]
  rfl

/-- The instruction at the start of a heading is an XML declaration. -/
theorem instruction_read {name : String} {e : Encoding} (known : Encoding.ofName? name = some e) :
    Xml.Instruction.ofText true ("xml".toList ++ stated name.toList)
      = some (.declaration ⟨some name, false⟩) := by
  have first : Xml.word? ("xml".toList ++ stated name.toList)
      = some ("xml".toList, stated name.toList) := rfl
  have reserved : ("xml".toList.map Char.toLower == "xml".toList) = true := by decide
  have same : (true && "xml".toList == "xml".toList) = true := by decide
  rw [Xml.Instruction.ofText, first, Option.bind_eq_bind, Option.bind_some]
  dsimp only
  rw [reserved, if_pos rfl, same, if_pos rfl, declaration_read known]
  rfl

/-! ## Headings as characters -/

section

variable {layout : Layout} {e : Encoding}

/-- The heading up to the end of the declaration, and what the declaration states. -/
theorem heading_eq (declaration : layout.declaration = true) :
    heading layout = "<?xml".toList ++ stated layout.encoding.toList ++ '?' :: '>' :: ['\n'] := by
  rw [heading, if_pos declaration]
  simp [word, stated]

theorem heading_eq_nil (declaration : layout.declaration = false) : heading layout = [] := by
  rw [heading, declaration]
  rfl

/-- The characters of a declaration are of ASCII, and none of them ends it. -/
theorem isNaming_or_quote_of_stated (known : Encoding.ofName? layout.encoding = some e) :
    ∀ c ∈ stated layout.encoding.toList, IsNaming c ∨ c = '\'' := by
  have before : ∀ c ∈ ' ' :: ("version".toList ++ '=' :: '\'' :: ("1.0".toList ++ '\'' ::
      (' ' :: ("encoding".toList ++ ['=', '\''])))), IsNaming c ∨ c = '\'' :=
    List.all_iff_forall_prop.mp (by decide)
  have shape : stated layout.encoding.toList = (' ' :: ("version".toList ++ '=' :: '\'' ::
      ("1.0".toList ++ '\'' :: (' ' :: ("encoding".toList ++ ['=', '\''])))))
        ++ (layout.encoding.toList ++ ['\'']) := by
    simp [stated]
  rw [shape]
  refine List.forall_mem_append.mpr ⟨before, List.forall_mem_append.mpr ⟨fun c inside => ?_, ?_⟩⟩
  · exact .inl (isNaming_of_known known c inside)
  · exact fun c last => .inr (List.mem_singleton.mp last)

/-- A heading is written in ASCII. -/
theorem ascii_heading (known : Encoding.ofName? layout.encoding = some e) :
    Xml.IsAscii (heading layout) := by
  cases declaration : layout.declaration with
  | true =>
    have lead : Xml.IsAscii "<?xml".toList := by decide
    have tail : Xml.IsAscii ('?' :: '>' :: ['\n']) := by decide
    rw [heading_eq declaration]
    refine List.forall_mem_append.mpr ⟨List.forall_mem_append.mpr ⟨lead, fun c inside => ?_⟩,
      tail⟩
    rcases isNaming_or_quote_of_stated known c inside with naming | quote
    · exact naming.low
    · rw [quote]
      decide
  | false =>
    rw [heading_eq_nil declaration]
    exact nofun

/-- The characters of an instruction are held up to its end, and its line feeds are counted. -/
theorem run_instruction {resolve : Xml.Refer} {s : Scan} {first : Bool} {cs soFar : List Char}
    (begun : s.stage ≠ .start) (chars : ∀ c ∈ cs, Xml.isXmlChar c = true ∧ c ≠ '>') :
    ({ s with mode := .instruction first soFar } : Scan).run resolve cs
      = { s with
          mode := .instruction first (cs.reverse ++ soFar), line := s.line + cs.count '\n' } := by
  induction cs generalizing s soFar with
  | nil => rfl
  | cons c rest ih =>
    obtain ⟨⟨character, noClose⟩, others⟩ := List.forall_mem_cons.mp chars
    have stage : (s.stage == .start) = false := by simpa using begun
    have held : ({ s with mode := .instruction first soFar } : Scan).step resolve c
        = { s with
            mode := .instruction first (c :: soFar)
            line := if c == '\n' then s.line + 1 else s.line } := by
      rw [Scan.step_eq character, Scan.stepMode]
      dsimp only
      unfold Scan.stepInstruction
      split
      case h_1 => exact (noClose rfl).elim
      case h_2 =>
        rw [Scan.count]
        dsimp only
        rw [stage]
        rfl
    have lines : (if c == '\n' then s.line + 1 else s.line) + rest.count '\n'
        = s.line + (c :: rest).count '\n' := by
      rw [List.count_cons]
      split_ifs <;> omega
    have went :=
      @ih { s with line := if c == '\n' then s.line + 1 else s.line } (c :: soFar) begun others
    rw [Scan.run_cons, held, went, ← lines, List.reverse_cons, List.append_assoc,
      List.singleton_append]

/-- What is known at the end of a heading. -/
theorem scan_heading (known : Encoding.ofName? layout.encoding = some e)
    (declaration : layout.declaration = true) :
    Scan.ofChars (heading layout) = { stage := .prolog, line := 2 } := by
  let resolve : Xml.Refer := fun doctype => Xml.referTo (doctype.entities.length + 1) doctype
  let text := "xml".toList ++ stated layout.encoding.toList
  have shape : heading layout = ['<', '?'] ++ ((text ++ ['?']) ++ ['>', '\n']) := by
    rw [heading_eq declaration]
    simp [text]
  have chars : ∀ c ∈ text ++ ['?'], Xml.isXmlChar c = true ∧ c ≠ '>' ∧ c ≠ '\n' := by
    have name : ∀ c ∈ "xml".toList, Xml.isXmlChar c = true ∧ c ≠ '>' ∧ c ≠ '\n' :=
      List.all_iff_forall_prop.mp (by decide)
    have mark : ∀ c ∈ ['?'], Xml.isXmlChar c = true ∧ c ≠ '>' ∧ c ≠ '\n' :=
      List.forall_mem_singleton.mpr (by decide)
    refine List.forall_mem_append.mpr ⟨List.forall_mem_append.mpr ⟨name, fun c inside => ?_⟩,
      mark⟩
    rcases isNaming_or_quote_of_stated known c inside with naming | quote
    · exact ⟨naming.character, naming.apart.2.2⟩
    · rw [quote]
      decide
  have opened : Scan.run resolve {} ['<', '?']
      = { mode := .instruction true [], stage := .prolog } := rfl
  have lines : (text ++ ['?']).count '\n' = 0 :=
    List.count_eq_zero.mpr fun inside => (chars _ inside).2.2 rfl
  have went := @run_instruction resolve { stage := .prolog } true (text ++ ['?']) [] (by simp)
    fun c inside => ⟨(chars c inside).1, (chars c inside).2.1⟩
  rw [lines, List.append_nil] at went
  have closed :
    ({ mode := .instruction true ('?' :: text.reverse), stage := .prolog } : Scan).step
      resolve '>' = { stage := .prolog } := by
    rw [Scan.step_eq (by decide), Scan.stepMode]
    dsimp only
    rw [Scan.stepInstruction, Scan.instruct, List.reverse_reverse, instruction_read known]
    rfl
  have ended : ({ stage := .prolog } : Scan).step resolve '\n'
      = { stage := .prolog, line := 2 } := rfl
  have whole : Scan.ofChars (heading layout) = Scan.run resolve {} (heading layout) := rfl
  rw [whole, shape, Scan.run_append, opened, Scan.run_append, went, List.reverse_append,
    List.reverse_singleton, List.singleton_append, Scan.run_cons, closed, Scan.run_cons, ended,
    Scan.run_nil]

/-- The scan of the heading is ready for the root. -/
theorem ready_heading (known : Encoding.ofName? layout.encoding = some e) :
    Scan.Ready 0 (Scan.ofChars (heading layout)) ∧ (Scan.ofChars (heading layout)).events = []
      ∧ (Scan.ofChars (heading layout)).sound = true := by
  cases declaration : layout.declaration with
  | true =>
    rw [scan_heading known declaration]
    exact ⟨⟨⟨0, rfl⟩, .inr ⟨rfl, .inr rfl⟩, rfl, rfl, rfl, rfl⟩, rfl, rfl⟩
  | false =>
    rw [heading_eq_nil declaration]
    exact ⟨⟨⟨0, rfl⟩, .inr ⟨rfl, .inl rfl⟩, rfl, rfl, rfl, rfl⟩, rfl, rfl⟩

end

end PrivilegeCatalog.Writing
