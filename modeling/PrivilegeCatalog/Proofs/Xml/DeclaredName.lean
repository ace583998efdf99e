import Mathlib.Data.List.DropRight
import PrivilegeCatalog.Proofs.Writing.Heading

/-!
# The encoding name of an XML declaration

An XML declaration is a sequence of assignments, each with a value between quotes. `NamesEncoding`
cuts a document around the value that names its encoding, as the grammar of XML has it. The reader
of declarations accepts what the grammar allows, and reads the name that is cut out
(`ofText_eq_some`); all that it accepts is ASCII, and neither mark that ends an instruction is in
it (`isDeclaring_of_ofText`).
-/

namespace PrivilegeCatalog.Xml

open Text (isXmlBlank)
open Declaration (assignment? isVersion isEncodingName standalone?)

/-! ## Grammar -/

/-- A text of blanks alone, which may be empty. -/
def AreBlanks (cs : List Char) : Prop := ∀ c ∈ cs, isXmlBlank c = true

/-- A mark that a value may stand between. -/
def IsQuote (c : Char) : Prop := c = '"' ∨ c = '\''

/-- What leads to a value: a blank or more, the key, an equals sign with or without blanks around
it, and a quote. -/
inductive LeadsTo (key : String) (quote : Char) : List Char → Prop
  | intro {first : Char} {more before after : List Char} (blanks : AreBlanks (first :: more))
      (gap : AreBlanks before) (gap' : AreBlanks after) (isQuote : IsQuote quote) :
    LeadsTo key quote (first :: (more ++ (key.toList ++ (before ++ '=' :: (after ++ [quote])))))

/-- What may stand in a declaration after the name of the encoding: whether the document stands
alone, and blanks. -/
inductive IsEnding : List Char → Prop
  | blank {blanks : List Char} (areBlanks : AreBlanks blanks) : IsEnding blanks
  | standalone {lead value blanks : List Char} {quote : Char}
      (leads : LeadsTo "standalone" quote lead)
      (word : value = "yes".toList ∨ value = "no".toList) (areBlanks : AreBlanks blanks) :
    IsEnding (lead ++ (value ++ quote :: blanks))

/-- A declaration up to the value that names the encoding, without its reserved name: the version
comes first. -/
inductive LeadsToName (quote : Char) : List Char → Prop
  | intro {lead version lead' : List Char} {quote' : Char} (leads : LeadsTo "version" quote' lead)
      (isVersion : isVersion version = true) (leads' : LeadsTo "encoding" quote lead') :
    LeadsToName quote (lead ++ (version ++ quote' :: lead'))

/-- A document in which an XML declaration, perhaps after a byte order mark, names the encoding:
the parts before, in and after the name. -/
inductive NamesEncoding : (front name back : List Char) → Prop
  | intro {mark lead name ending rest : List Char} {quote : Char}
      (isMark : mark = [] ∨ mark = ['\ufeff']) (leads : LeadsToName quote lead)
      (isName : isEncodingName name = true) (ends : IsEnding ending) :
    NamesEncoding (mark ++ ("<?xml".toList ++ lead)) name
      (quote :: (ending ++ "?>".toList ++ rest))

/-! ## Reading the parts -/

variable {cs rest value : List Char} {key : String}

theorem skipBlanks_append {blanks : List Char} (areBlanks : AreBlanks blanks) :
    skipBlanks (blanks ++ rest) = skipBlanks rest :=
  List.dropWhile_append_of_pos areBlanks

/-- Blanks at the start of a text are cut off. -/
theorem exists_skipBlanks (cs : List Char) :
    ∃ blanks, AreBlanks blanks ∧ cs = blanks ++ skipBlanks cs :=
  ⟨cs.takeWhile isXmlBlank, fun _ inside => List.mem_takeWhile_imp inside,
    List.takeWhile_append_dropWhile.symm⟩

/-- What is left after blanks does not start with one. -/
theorem skipBlanks_eq_iff :
    skipBlanks cs = rest
      ↔ skipBlanks rest = rest ∧ ∃ blanks, AreBlanks blanks ∧ cs = blanks ++ rest := by
  constructor
  · intro left
    rw [← left]
    exact ⟨List.dropWhile_idempotent .., exists_skipBlanks cs⟩
  · rintro ⟨stays, blanks, areBlanks, rfl⟩
    rw [skipBlanks_append areBlanks, stays]

theorem skipBlanks_eq_nil : skipBlanks cs = [] ↔ AreBlanks cs := by
  rw [skipBlanks, List.dropWhile_eq_nil_iff]
  rfl

theorem after?_eq_some {lead : String} :
    after? lead cs = some rest ↔ cs = lead.toList ++ rest := by
  constructor
  · intro read
    rw [after?] at read
    split_ifs at read with found
    cases read
    obtain ⟨more, same⟩ := List.isPrefixOf_iff_prefix.mp found
    rw [← same, ← String.length_toList, List.drop_left]
  · intro same
    rw [same]
    exact Writing.after?_append lead rest

/-- A value ends with the first quote that is like the one before it. -/
theorem quoted?_eq_some :
    quoted? cs = some (value, rest)
      ↔ ∃ quote, IsQuote quote ∧ quote ∉ value ∧ cs = quote :: (value ++ quote :: rest) := by
  constructor
  · intro read
    rw [quoted?.eq_def] at read
    cases cs with
    | nil => cases read
    | cons quote more =>
      dsimp only at read
      split_ifs at read with isQuote
      cases left : more.dropWhile (· != quote) with
      | nil =>
        rw [left] at read
        cases read
      | cons last others =>
        rw [left] at read
        cases read
        have inside : more.dropWhile (· != quote) ≠ [] := by simp [left]
        have head := List.head_dropWhile_not (· != quote) inside
        have same : last = quote := by simpa [left] using head
        refine ⟨quote, by simpa [IsQuote] using isQuote, fun within => ?_, ?_⟩
        · have other := List.mem_takeWhile_imp within
          simp at other
        · rw [same] at left
          rw [← left, List.takeWhile_append_dropWhile]
  · rintro ⟨quote, isQuote, noQuote, rfl⟩
    have others : ∀ c ∈ value, (c != quote) = true := by
      intro c inside
      rw [bne_iff_ne]
      intro same
      exact noQuote (same ▸ inside)
    have dropped : (value ++ quote :: rest).dropWhile (· != quote) = quote :: rest := by
      rw [List.dropWhile_append_of_pos others, List.dropWhile_cons_of_neg (by simp)]
    have taken : (value ++ quote :: rest).takeWhile (· != quote) = value := by
      rw [List.takeWhile_append_of_pos others, List.takeWhile_cons_of_neg (by simp),
        List.append_nil]
    have quotes : (quote == '"' || quote == '\'') = true := by simpa [IsQuote] using isQuote
    rw [quoted?, if_pos quotes, dropped, taken]

/-- Where there has to be a blank, there may be more of them. -/
theorem needBlanks_eq_some :
    needBlanks cs = some rest ↔ skipBlanks rest = rest
      ∧ ∃ first more, AreBlanks (first :: more) ∧ cs = first :: (more ++ rest) := by
  constructor
  · intro read
    rw [needBlanks.eq_def] at read
    cases cs with
    | nil => cases read
    | cons first more =>
      dsimp only at read
      split_ifs at read with blank
      obtain ⟨stays, blanks, areBlanks, same⟩ := skipBlanks_eq_iff.mp (Option.some.inj read)
      refine ⟨stays, first, blanks, List.forall_mem_cons.mpr ⟨blank, areBlanks⟩, ?_⟩
      rw [same]
  · rintro ⟨stays, first, more, blanks, rfl⟩
    obtain ⟨blank, others⟩ := List.forall_mem_cons.mp blanks
    rw [needBlanks, if_pos blank, skipBlanks_eq_iff.mpr ⟨stays, more, others, rfl⟩]

/-- An assignment is the key, an equals sign with or without blanks around it, and the value
between quotes. -/
theorem assignment?_eq_some :
    assignment? key cs = some (value, rest)
      ↔ ∃ quote before after, IsQuote quote ∧ quote ∉ value ∧ AreBlanks before ∧ AreBlanks after
        ∧ cs = key.toList ++ (before ++ '=' :: (after ++ quote :: (value ++ quote :: rest))) := by
  have atSign : ∀ more, skipBlanks ('=' :: more) = '=' :: more :=
    fun _ => List.dropWhile_cons_of_neg (by decide)
  have atQuote : ∀ {quote}, IsQuote quote →
      ∀ more, skipBlanks (quote :: more) = quote :: more := by
    intro quote isQuote more
    refine List.dropWhile_cons_of_neg ?_
    rcases isQuote with rfl | rfl <;> decide
  rw [assignment?]
  simp only [Option.bind_eq_bind, Option.bind_eq_some_iff, after?_eq_some, quoted?_eq_some]
  constructor
  · rintro ⟨_, rfl, _, signRead, quote, isQuote, noQuote, valueRead⟩
    obtain ⟨-, before, gap, rfl⟩ := skipBlanks_eq_iff.mp signRead
    obtain ⟨-, after, gap', rfl⟩ := skipBlanks_eq_iff.mp valueRead
    exact ⟨quote, before, after, isQuote, noQuote, gap, gap', rfl⟩
  · rintro ⟨quote, before, after, isQuote, noQuote, gap, gap', rfl⟩
    exact ⟨_, rfl, _, skipBlanks_eq_iff.mpr ⟨atSign _, before, gap, rfl⟩, quote, isQuote, noQuote,
      skipBlanks_eq_iff.mpr ⟨atQuote isQuote _, after, gap', rfl⟩⟩

/-- An assignment after blanks is what leads to its value, the value, and the quote again. -/
theorem assignment_eq_some
    (atKey : ∀ more, skipBlanks (key.toList ++ more) = key.toList ++ more) :
    (needBlanks cs).bind (assignment? key) = some (value, rest)
      ↔ ∃ quote lead, LeadsTo key quote lead ∧ quote ∉ value
        ∧ cs = lead ++ (value ++ quote :: rest) := by
  rw [Option.bind_eq_some_iff]
  simp only [needBlanks_eq_some, assignment?_eq_some]
  constructor
  · rintro ⟨_, ⟨-, first, more, blanks, rfl⟩, quote, before, after, isQuote, noQuote, gap, gap',
      rfl⟩
    exact ⟨quote, _, .intro blanks gap gap' isQuote, noQuote, by simp⟩
  · rintro ⟨quote, _, @⟨first, more, before, after, blanks, gap, gap', isQuote⟩, noQuote, rfl⟩
    refine ⟨_, ⟨atKey _, first, more, blanks, ?_⟩, quote, before, after, isQuote, noQuote, gap,
      gap', rfl⟩
    simp

/-! ## Declarations -/

theorem isEncodingChar_of_isVersion {version : List Char} (isVersion : isVersion version = true) :
    ∀ c ∈ version, Writing.isEncodingChar c = true := by
  unfold Declaration.isVersion at isVersion
  split at isVersion
  case h_1 minor =>
    refine List.forall_mem_cons.mpr ⟨by decide, List.forall_mem_cons.mpr ⟨by decide, ?_⟩⟩
    intro c inside
    have digit := List.all_eq_true.mp isVersion c inside
    rw [Writing.isEncodingChar, Char.isAlphanum, digit, Bool.or_true, Bool.true_or]
  case h_2 => cases isVersion

theorem isEncodingChar_of_answer (answer : value = "yes".toList ∨ value = "no".toList) :
    ∀ c ∈ value, Writing.isEncodingChar c = true := by
  rcases answer with rfl | rfl <;> exact List.all_eq_true.mp (by decide)

theorem not_mem_of_isQuote {quote : Char} (isQuote : IsQuote quote)
    (chars : ∀ c ∈ value, Writing.isEncodingChar c = true) : quote ∉ value := by
  intro inside
  have char := chars quote inside
  rcases isQuote with rfl | rfl
  · revert char
    decide
  · revert char
    decide

theorem LeadsTo.isQuote {quote : Char} {lead : List Char} (leads : LeadsTo key quote lead) :
    IsQuote quote := by
  cases leads with
  | intro _ _ _ isQuote => exact isQuote

theorem atVersion (more : List Char) :
    skipBlanks ("version".toList ++ more) = "version".toList ++ more := rfl

theorem atEncoding (more : List Char) :
    skipBlanks ("encoding".toList ++ more) = "encoding".toList ++ more := rfl

theorem atStandalone (more : List Char) :
    skipBlanks ("standalone".toList ++ more) = "standalone".toList ++ more := rfl

/-- A declaration is read when a version comes first, then the name of the encoding, if there is
one, and then an ending that is read. -/
theorem ofText_eq_some {d : Declaration} :
    Declaration.ofText cs = some d
      ↔ ∃ quote lead version rest, LeadsTo "version" quote lead ∧ isVersion version = true
        ∧ cs = lead ++ (version ++ quote :: rest)
        ∧ ((∃ quote' lead' name ending, LeadsTo "encoding" quote' lead'
          ∧ isEncodingName name = true
              ∧ rest = lead' ++ (name ++ quote' :: ending)
              ∧ d.encoding = some (String.ofList name) ∧ standalone? ending = some d.standalone)
            ∨ (needBlanks rest).bind (assignment? "encoding") = none
              ∧ d.encoding = none ∧ standalone? rest = some d.standalone) := by
  unfold Declaration.ofText
  simp only [Option.bind_eq_bind, ← Option.bind_assoc]
  constructor
  · intro read
    obtain ⟨⟨version, rest⟩, first, read⟩ := Option.bind_eq_some_iff.mp read
    obtain ⟨quote, lead, leads, -, same⟩ := (assignment_eq_some atVersion).mp first
    dsimp only at read
    split_ifs at read with noVersion
    refine ⟨quote, lead, version, rest, leads, by simpa using noVersion, same, ?_⟩
    cases second : (needBlanks rest).bind (assignment? "encoding") with
    | none =>
      rw [second] at read
      obtain ⟨alone, ends, ⟨⟩⟩ := Option.bind_eq_some_iff.mp read
      exact .inr ⟨rfl, rfl, ends⟩
    | some named =>
      rw [second] at read
      obtain ⟨name, ending⟩ := named
      dsimp only at read
      split_ifs at read with isName
      obtain ⟨alone, ends, ⟨⟩⟩ := Option.bind_eq_some_iff.mp read
      obtain ⟨quote', lead', leads', -, same'⟩ := (assignment_eq_some atEncoding).mp second
      exact .inl ⟨quote', lead', name, ending, leads', isName, same', rfl, ends⟩
  · rintro ⟨quote, lead, version, rest, leads, isVersion, rfl, ending⟩
    have noQuote := not_mem_of_isQuote leads.isQuote (isEncodingChar_of_isVersion isVersion)
    rw [(assignment_eq_some atVersion).mpr ⟨quote, lead, leads, noQuote, rfl⟩, Option.bind_some]
    dsimp only
    rw [isVersion]
    rcases ending with ⟨quote', lead', name, ending, leads', isName, rfl, encoding, ends⟩ |
        ⟨noName, encoding, ends⟩
    · have noQuote' := not_mem_of_isQuote leads'.isQuote (Writing.isEncodingChar_of_mem isName)
      rw [(assignment_eq_some atEncoding).mpr ⟨quote', lead', leads', noQuote', rfl⟩]
      dsimp only
      rw [isName, ends, ← encoding]
      rfl
    · rw [noName]
      dsimp only
      rw [ends, ← encoding]
      rfl

/-- The endings that are read are those of the grammar. -/
theorem isSome_standalone? : (standalone? cs).isSome = true ↔ IsEnding cs := by
  have blank : ∀ {cs}, (skipBlanks cs).isEmpty = true ↔ AreBlanks cs :=
    fun {cs} => List.isEmpty_iff.trans skipBlanks_eq_nil
  unfold Declaration.standalone?
  simp only [Option.bind_eq_bind, ← Option.bind_assoc]
  split_ifs with blanks
  · exact iff_of_true rfl (.blank (blank.mp blanks))
  constructor
  · intro read
    obtain ⟨alone, told⟩ := Option.isSome_iff_exists.mp read
    obtain ⟨⟨value, rest⟩, assigned, word⟩ := Option.bind_eq_some_iff.mp told
    obtain ⟨quote, lead, leads, -, rfl⟩ := (assignment_eq_some atStandalone).mp assigned
    dsimp only at word
    split_ifs at word with more yes no
    · exact .standalone leads (.inl (eq_of_beq yes)) (blank.mp (by simpa using more))
    · exact .standalone leads (.inr (eq_of_beq no)) (blank.mp (by simpa using more))
  · intro ends
    cases ends with
    | blank areBlanks => exact absurd (blank.mpr areBlanks) blanks
    | @standalone lead value rest quote leads word areBlanks =>
      have noQuote := not_mem_of_isQuote leads.isQuote (isEncodingChar_of_answer word)
      rw [(assignment_eq_some atStandalone).mpr ⟨quote, lead, leads, noQuote, rfl⟩,
        Option.bind_some]
      dsimp only
      rw [blank.mpr areBlanks]
      rcases word with rfl | rfl <;> rfl

/-! ## Declarations that name an encoding -/

/-- Any name can stand in the place of another one, and nothing else is read differently then. -/
theorem exists_ofText_named {quote : Char} {lead ending : List Char}
    (leads : LeadsToName quote lead) (ends : IsEnding ending) :
    ∃ standalone, ∀ name, isEncodingName name = true →
      Declaration.ofText (lead ++ (name ++ quote :: ending))
        = some ⟨some (String.ofList name), standalone⟩ := by
  obtain ⟨standalone, told⟩ := Option.isSome_iff_exists.mp (isSome_standalone?.mpr ends)
  refine ⟨standalone, fun name isName => ofText_eq_some.mpr ?_⟩
  cases leads with
  | @intro lead version lead' quote' leads isVersion leads' =>
    refine ⟨quote', lead, version, lead' ++ (name ++ quote :: ending), leads, isVersion, by simp,
      ?_⟩
    exact .inl ⟨quote, lead', name, ending, leads', isName, rfl, rfl, told⟩

/-- A name that is read is named by the grammar. -/
theorem exists_leadsToName {d : Declaration} (read : Declaration.ofText cs = some d)
    (named : d.encoding ≠ none) :
    ∃ quote lead name ending, LeadsToName quote lead ∧ isEncodingName name = true
      ∧ IsEnding ending ∧ cs = lead ++ (name ++ quote :: ending) := by
  obtain ⟨quote', lead, version, rest, leads, isVersion, rfl, ending⟩ := ofText_eq_some.mp read
  rcases ending with ⟨quote, lead', name, ending, leads', isName, rfl, -, told⟩ | ⟨-, none_, -⟩
  · have ends : IsEnding ending :=
      isSome_standalone?.mp (Option.isSome_iff_exists.mpr ⟨d.standalone, told⟩)
    exact ⟨quote, _, name, ending, .intro leads isVersion leads', isName, ends, by simp⟩
  · exact absurd none_ named

/-! ## Characters -/

/-- A character of a declaration: it is of ASCII, and none of the two that end an instruction. -/
structure IsDeclaring (c : Char) : Prop where
  low : c.toNat < 0x80
  character : isXmlChar c = true
  apart : c ≠ '?' ∧ c ≠ '>'

instance (c : Char) : Decidable (IsDeclaring c) :=
  decidable_of_iff (c.toNat < 0x80 ∧ isXmlChar c = true ∧ c ≠ '?' ∧ c ≠ '>')
    ⟨fun given => ⟨given.1, given.2.1, given.2.2⟩,
      fun given => ⟨given.low, given.character, given.apart⟩⟩

theorem IsDeclaring.of_isEncodingChar {c : Char} (char : Writing.isEncodingChar c = true) :
    IsDeclaring c := by
  obtain ⟨low, character, -, noMark, noClose, -⟩ := Writing.isNaming_of_isEncodingChar char
  exact ⟨low, character, noMark, noClose⟩

theorem AreBlanks.isDeclaring {blanks : List Char} (areBlanks : AreBlanks blanks) :
    ∀ c ∈ blanks, IsDeclaring c := by
  intro c inside
  have blank := areBlanks c inside
  simp only [isXmlBlank, Bool.or_eq_true, beq_iff_eq] at blank
  rcases blank with ((rfl | rfl) | rfl) | rfl <;> decide

theorem IsQuote.isDeclaring {quote : Char} (isQuote : IsQuote quote) : IsDeclaring quote := by
  rcases isQuote with rfl | rfl <;> decide

theorem LeadsTo.isDeclaring {quote : Char} {lead : List Char} (leads : LeadsTo key quote lead)
    (word : ∀ c ∈ key.toList, IsDeclaring c) : ∀ c ∈ lead, IsDeclaring c := by
  cases leads with
  | intro blanks gap gap' isQuote =>
    have sign : IsDeclaring '=' := by decide
    have value := List.forall_mem_append.mpr
      ⟨gap'.isDeclaring, List.forall_mem_singleton.mpr isQuote.isDeclaring⟩
    have signed := List.forall_mem_append.mpr
      ⟨gap.isDeclaring, List.forall_mem_cons.mpr ⟨sign, value⟩⟩
    exact List.forall_mem_append.mpr
      ⟨blanks.isDeclaring, List.forall_mem_append.mpr ⟨word, signed⟩⟩

/-- What leads to a value, the value and the quote after it. -/
theorem LeadsTo.isDeclaring_value {quote : Char} {lead : List Char}
    (leads : LeadsTo key quote lead) (word : ∀ c ∈ key.toList, IsDeclaring c)
    (chars : ∀ c ∈ value, Writing.isEncodingChar c = true) (others : ∀ c ∈ rest, IsDeclaring c) :
    ∀ c ∈ lead ++ (value ++ quote :: rest), IsDeclaring c :=
  List.forall_mem_append.mpr ⟨leads.isDeclaring word, List.forall_mem_append.mpr
    ⟨fun c inside => .of_isEncodingChar (chars c inside),
      List.forall_mem_cons.mpr ⟨leads.isQuote.isDeclaring, others⟩⟩⟩

theorem IsEnding.isDeclaring (ends : IsEnding cs) : ∀ c ∈ cs, IsDeclaring c := by
  cases ends with
  | blank areBlanks => exact areBlanks.isDeclaring
  | standalone leads answer areBlanks =>
    exact leads.isDeclaring_value (List.all_iff_forall_prop.mp (by decide))
      (isEncodingChar_of_answer answer) areBlanks.isDeclaring

/-- The characters of a declaration that is read. -/
theorem isDeclaring_of_ofText {d : Declaration} (read : Declaration.ofText cs = some d) :
    ∀ c ∈ cs, IsDeclaring c := by
  have ending : ∀ {cs}, standalone? cs = some d.standalone → ∀ c ∈ cs, IsDeclaring c :=
    fun told => (isSome_standalone?.mp (Option.isSome_iff_exists.mpr ⟨_, told⟩)).isDeclaring
  obtain ⟨quote, lead, version, rest, leads, isVersion, rfl, parts⟩ := ofText_eq_some.mp read
  have others : ∀ c ∈ rest, IsDeclaring c := by
    rcases parts with ⟨quote', lead', name, ending', leads', isName, rfl, -, told⟩ | ⟨-, -, told⟩
    · exact leads'.isDeclaring_value (List.all_iff_forall_prop.mp (by decide))
        (Writing.isEncodingChar_of_mem isName) (ending told)
    · exact ending told
  exact leads.isDeclaring_value (List.all_iff_forall_prop.mp (by decide))
    (isEncodingChar_of_isVersion isVersion) others

end PrivilegeCatalog.Xml
