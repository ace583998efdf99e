import PrivilegeCatalog.Proofs.Names
import PrivilegeCatalog.Proofs.Privilege

/-!
# The grammar of names

A qualified name is a stem, or a label and a stem with a colon between them (`Spelled`). The check
of a name keeps to that grammar but for one thing: either part may end in a line feed, which no
part of a name in the grammar does (`OrFed`). `names_are_spelled` says so of every text, and of
the texts that are given for the names of a privilege. What else is to be known of the parts of a
name follows: they make it up (`written_of_ofText`), its stem holds no mark (`not_mem_stem`), and
it holds no blank when neither part ends in a line feed (`Name.not_blank`).
-/

namespace PrivilegeCatalog

open Text (isBlank isDecimal isWord)

namespace QualifiedName

/-! ## The grammar -/

/-- A label is a word character other than a digit, followed by word characters, dots and
hyphens. -/
inductive IsLabel : List Char → Prop
  | intro {first : Char} {rest : List Char} (word : isWord first = true)
      (noDigit : isDecimal first = false)
      (others : ∀ c ∈ rest, isWord c = true ∨ c = '.' ∨ c = '-') : IsLabel (first :: rest)

/-- A stem holds something, but no blank and no mark. -/
structure IsStem (cs : List Char) : Prop where
  nonempty : cs ≠ []
  plain : ∀ c ∈ cs, isBlank c = false ∧ c ∉ [':', '/', '[', ']', '|', '*', '\x7b', '\x7d']

/-- A text that is made up of parts of the given kinds: a stem under the empty label, or a label
and a stem around a colon. -/
inductive Spelled (label? stem? : List Char → Prop) : String → QualifiedName → Prop
  | bare {stem : String} (stemText : stem? stem.toList) : Spelled label? stem? stem ⟨"", stem⟩
  | labelled {label stem : String} (labelText : label? label.toList)
      (stemText : stem? stem.toList) : Spelled label? stem? (label ++ ":" ++ stem) ⟨label, stem⟩

/-- A part of a name, perhaps with a line feed after it. -/
def OrFed (part? : List Char → Prop) (cs : List Char) : Prop :=
  part? cs ∨ ∃ front, cs = front ++ ['\n'] ∧ part? front

variable {cs label stem : List Char} {c : Char} {text : String} {parts : QualifiedName}

theorem IsLabel.not_blank (label : IsLabel cs) : ∀ c ∈ cs, isBlank c = false := by
  cases label with
  | intro word noDigit others =>
    intro c inside
    rcases List.mem_cons.mp inside with rfl | inside
    · exact Text.not_blank_of_isWord word
    · rcases others c inside with word | rfl | rfl
      · exact Text.not_blank_of_isWord word
      · rfl
      · rfl

theorem IsLabel.nonempty (label : IsLabel cs) : cs ≠ [] := by
  cases label
  exact List.cons_ne_nil _ _

theorem IsLabel.no_colon (label : IsLabel cs) : ':' ∉ cs := by
  have noWord : isWord ':' = false := by decide +kernel
  cases label with
  | intro word noDigit others =>
    intro inside
    rcases List.mem_cons.mp inside with rfl | inside
    · exact Bool.false_ne_true (noWord.symm.trans word)
    · rcases others ':' inside with word | dot | hyphen
      · exact Bool.false_ne_true (noWord.symm.trans word)
      · exact absurd dot (by decide)
      · exact absurd hyphen (by decide)

theorem IsStem.not_blank (stem : IsStem cs) : ∀ c ∈ cs, isBlank c = false :=
  fun c inside => (stem.plain c inside).1

theorem IsStem.no_mark (stem : IsStem cs) (mark : c ∈ stemMarks) : c ∉ cs :=
  fun inside => (stem.plain c inside).2 mark

/-! ## Line feeds -/

section Fed

variable {part? : List Char → Prop}

/-- Where parts hold no blank, the check of a text without its final line feed finds the parts
that may end in one. -/
theorem orFed_iff (plain : ∀ cs, part? cs → ∀ c ∈ cs, isBlank c = false) :
    OrFed part? cs ↔ part? (dropFinalFeed cs) := by
  have noFeed : ∀ front, ¬ part? (front ++ ['\n']) := fun front part =>
    absurd (plain _ part '\n' (List.mem_append_right _ (List.mem_singleton.mpr rfl))) (by decide)
  unfold dropFinalFeed
  split
  case isTrue feed =>
    obtain ⟨front, rfl⟩ := List.getLast?_eq_some_iff.mp feed
    rw [List.dropLast_concat]
    constructor
    · intro fed
      rcases fed with part | ⟨front', same, part⟩
      · exact (noFeed front part).elim
      · rw [List.append_cancel_right same]
        exact part
    · exact fun part => .inr ⟨front, rfl, part⟩
  case isFalse other =>
    constructor
    · intro fed
      rcases fed with part | ⟨front, rfl, -⟩
      · exact part
      · exact (other List.getLast?_concat).elim
    · exact .inl

/-- The only blank in such a part is the line feed at its end. -/
theorem OrFed.blank (plain : ∀ cs, part? cs → ∀ c ∈ cs, isBlank c = false) (fed : OrFed part? cs)
    (inside : c ∈ cs) (blank : isBlank c = true) : c = '\n' ∧ cs.getLast? = some '\n' := by
  rcases fed with part | ⟨front, rfl, part⟩
  · exact absurd (plain _ part c inside) (by simp [blank])
  · refine ⟨?_, List.getLast?_concat⟩
    rcases List.mem_append.mp inside with inside | last
    · exact absurd (plain _ part c inside) (by simp [blank])
    · exact List.mem_singleton.mp last

/-- What is in no part of some kind is not in such a part, unless it is the line feed. -/
theorem OrFed.not_mem (plain : ∀ cs, part? cs → c ∉ cs) (other : c ≠ '\n')
    (fed : OrFed part? cs) : c ∉ cs := by
  rcases fed with part | ⟨front, rfl, part⟩
  · exact plain _ part
  · rw [List.mem_append, List.mem_singleton, not_or]
    exact ⟨plain _ part, other⟩

/-- Such a part without a blank has no line feed after it. -/
theorem OrFed.of_not_blank (fed : OrFed part? cs) (none_ : ∀ c ∈ cs, isBlank c = false) :
    part? cs := by
  rcases fed with part | ⟨front, rfl, part⟩
  · exact part
  · have feed := none_ '\n' (List.mem_append_right _ (List.mem_singleton.mpr rfl))
    exact absurd feed (by decide)

end Fed

theorem isLabelText_iff : isLabelText cs = true ↔ OrFed IsLabel cs := by
  rw [orFed_iff fun _ => IsLabel.not_blank, isLabelText]
  cases dropFinalFeed cs with
  | nil => exact iff_of_false Bool.false_ne_true nofun
  | cons first rest =>
    simp only [Bool.and_eq_true, Bool.not_eq_true', List.all_eq_true, Bool.or_eq_true, beq_iff_eq,
      or_assoc]
    constructor
    · intro checked
      rcases checked with ⟨⟨word, noDigit⟩, others⟩
      exact ⟨word, noDigit, others⟩
    · intro label
      cases label with
      | intro word noDigit others => exact ⟨⟨word, noDigit⟩, others⟩

theorem isStemText_iff : isStemText cs = true ↔ OrFed IsStem cs := by
  have plain : ∀ c, (!isBlank c && !stemMarks.contains c) = true
      ↔ isBlank c = false ∧ c ∉ [':', '/', '[', ']', '|', '*', '\x7b', '\x7d'] := by
    intro c
    rw [Bool.and_eq_true, Bool.not_eq_true', Bool.not_eq_true']
    refine and_congr_right fun _ => ?_
    rw [← Bool.not_eq_true, List.contains_iff_mem]
    rfl
  rw [orFed_iff fun _ => IsStem.not_blank, isStemText, Bool.and_eq_true, Bool.not_eq_true',
    List.isEmpty_eq_false_iff, List.all_eq_true]
  constructor
  · intro checked
    exact ⟨checked.1, fun c inside => (plain c).mp (checked.2 c inside)⟩
  · intro stem
    exact ⟨stem.nonempty, fun c inside => (plain c).mpr (stem.plain c inside)⟩

/-! ## Cuts at the first colon -/

/-- The parts of a name make it up. -/
theorem eq_of_cut {cs label stem : List Char} (found : cut cs = some (label, stem)) :
    cs = label ++ ':' :: stem := by
  unfold cut at found
  split at found
  case h_1 => cases found
  case h_2 c rest dropped =>
    obtain ⟨same, same'⟩ := Prod.mk.inj (Option.some.inj found)
    have colon : c = ':' := by
      have first := List.head?_dropWhile_not (· != ':') cs
      rw [dropped] at first
      simpa using first
    rw [colon] at dropped
    rw [← same, ← same', ← dropped]
    exact List.takeWhile_append_dropWhile.symm

theorem cut_of_no_colon (none_ : ':' ∉ cs) : cut cs = none := by
  have all : cs.dropWhile (· != ':') = [] := by
    rw [List.dropWhile_eq_nil_iff]
    intro c inside
    exact bne_iff_ne.mpr fun same => none_ (same ▸ inside)
  rw [cut, all]

theorem cut_append (none_ : ':' ∉ label) : cut (label ++ ':' :: stem) = some (label, stem) := by
  have before : ∀ c ∈ label, (c != ':') = true :=
    fun c inside => bne_iff_ne.mpr fun same => none_ (same ▸ inside)
  rw [cut, List.dropWhile_append_of_pos before, List.takeWhile_append_of_pos before]
  simp

/-- The names that are accepted are those in which a part in the grammar may have a line feed
after it. -/
theorem ofText_eq_ok :
    ofText text = .ok parts ↔ Spelled (OrFed IsLabel) (OrFed IsStem) text parts := by
  constructor
  · intro made
    unfold ofText at made
    split at made
    case h_1 label stem found =>
      split_ifs at made with labelText stemText
      cases made
      have whole : text = String.ofList label ++ ":" ++ String.ofList stem := by
        apply String.toList_inj.mp
        rw [eq_of_cut found]
        simp
      rw [whole]
      refine .labelled ?_ ?_
      · rw [String.toList_ofList]
        exact isLabelText_iff.mp labelText
      · rw [String.toList_ofList]
        exact isStemText_iff.mp stemText
    case h_2 =>
      split_ifs at made with stemText
      cases made
      exact .bare (isStemText_iff.mp stemText)
  · intro spelled
    cases spelled with
    | bare stemText =>
      have colon : ':' ∈ stemMarks := List.mem_cons_self ..
      have whole :=
        cut_of_no_colon (stemText.not_mem (fun _ part => part.no_mark colon) (by decide))
      unfold ofText
      rw [whole]
      exact if_pos (isStemText_iff.mpr stemText)
    | @labelled label stem labelText stemText =>
      have chars : (label ++ ":" ++ stem).toList = label.toList ++ ':' :: stem.toList := by simp
      have plain := labelText.not_mem (fun _ => IsLabel.no_colon) (by decide)
      have found := @cut_append _ stem.toList plain
      unfold ofText
      rw [chars, found]
      dsimp only
      rw [if_pos (isLabelText_iff.mpr labelText), if_pos (isStemText_iff.mpr stemText),
        String.ofList_toList, String.ofList_toList]

/-- A text that is no name is quoted in the fault. -/
theorem error_of_not_spelled
    (none_ : ∀ parts, ¬ Spelled (OrFed IsLabel) (OrFed IsStem) text parts) :
    ofText text = .error (.badLabel text) ∨ ofText text = .error (.badStem text) := by
  cases made : ofText text with
  | ok parts => exact (none_ parts (ofText_eq_ok.mp made)).elim
  | error fault =>
    unfold ofText at made
    split at made
    · split_ifs at made <;> cases made
      · exact .inr rfl
      · exact .inl rfl
    · split_ifs at made
      cases made
      exact .inr rfl

/-! ## The parts of a name -/

/-- A name as it is written: its stem alone when the label is empty, and else both parts with a
colon between them. -/
def written (parts : QualifiedName) : String :=
  if parts.label = "" then parts.stem else parts.label ++ ":" ++ parts.stem

theorem written_of_ofText (made : ofText text = .ok parts) : parts.written = text := by
  cases ofText_eq_ok.mp made with
  | bare stemText => exact if_pos rfl
  | @labelled label stem labelText stemText =>
    have named : label ≠ "" := by
      rintro rfl
      rcases labelText with part | ⟨front, same, -⟩
      · exact part.nonempty rfl
      · exact List.append_ne_nil_of_right_ne_nil front (List.cons_ne_nil _ _) same.symm
    exact if_neg named

/-- The parts of a name determine it. -/
theorem text_inj {text' : String} (made : ofText text = .ok parts)
    (made' : ofText text' = .ok parts) : text = text' :=
  (written_of_ofText made).symm.trans (written_of_ofText made')

theorem Spelled.stemText {label? stem? : List Char → Prop}
    (spelled : Spelled label? stem? text parts) : stem? parts.stem.toList := by
  cases spelled <;> assumption

/-- The stem of a name holds none of the marks. -/
theorem not_mem_stem (made : ofText text = .ok parts) (mark : c ∈ stemMarks) :
    c ∉ parts.stem.toList := by
  have feed : '\n' ∉ stemMarks := by decide
  have stem := (ofText_eq_ok.mp made).stemText
  exact stem.not_mem (fun _ part => part.no_mark mark) fun same => feed (same ▸ mark)

/-- A name ends as its stem does. -/
theorem Spelled.getLast? {label? stem? : List Char → Prop}
    (spelled : Spelled label? stem? text parts) (last : parts.stem.toList.getLast? = some c) :
    text.toList.getLast? = some c := by
  cases spelled with
  | bare => exact last
  | labelled =>
    rw [String.toList_append, List.getLast?_append, last]
    rfl

/-! ## Names without blanks -/

theorem Spelled.not_blank (spelled : Spelled IsLabel IsStem text parts) :
    ∀ c ∈ text.toList, isBlank c = false := by
  cases spelled with
  | bare stemText => exact stemText.not_blank
  | labelled labelText stemText =>
    intro c inside
    rw [String.toList_append, String.toList_append, List.mem_append, List.mem_append] at inside
    rcases inside with (inside | colon) | inside
    · exact labelText.not_blank c inside
    · rw [List.mem_singleton.mp colon]
      rfl
    · exact stemText.not_blank c inside

/-- The names in the grammar are those that are accepted and hold no blank. -/
theorem spelled_iff : Spelled IsLabel IsStem text parts ↔
    ofText text = .ok parts ∧ ∀ c ∈ text.toList, isBlank c = false := by
  rw [ofText_eq_ok]
  constructor
  · intro spelled
    refine ⟨?_, spelled.not_blank⟩
    cases spelled with
    | bare stemText => exact .bare (.inl stemText)
    | labelled labelText stemText => exact .labelled (.inl labelText) (.inl stemText)
  · intro given
    rcases given with ⟨spelled, none_⟩
    cases spelled with
    | bare stemText => exact .bare (stemText.of_not_blank none_)
    | labelled labelText stemText =>
      rw [String.toList_append, String.toList_append, List.append_assoc,
        List.forall_mem_append, List.forall_mem_append] at none_
      exact .labelled (labelText.of_not_blank none_.1) (stemText.of_not_blank none_.2.2)

/-- The only blanks in a name that is accepted are line feeds, each at the end of a part. -/
theorem blank_of_ofText (made : ofText text = .ok parts) (inside : c ∈ text.toList)
    (blank : isBlank c = true) : c = '\n' ∧
      (parts.label.toList.getLast? = some '\n' ∨ parts.stem.toList.getLast? = some '\n') := by
  cases ofText_eq_ok.mp made with
  | bare stemText =>
    obtain ⟨feed, last⟩ := stemText.blank (fun _ => IsStem.not_blank) inside blank
    exact ⟨feed, .inr last⟩
  | labelled labelText stemText =>
    rw [String.toList_append, String.toList_append, List.mem_append, List.mem_append] at inside
    rcases inside with (inside | colon) | inside
    · obtain ⟨feed, last⟩ := labelText.blank (fun _ => IsLabel.not_blank) inside blank
      exact ⟨feed, .inl last⟩
    · rw [List.mem_singleton.mp colon] at blank
      exact absurd blank (by decide)
    · obtain ⟨feed, last⟩ := stemText.blank (fun _ => IsStem.not_blank) inside blank
      exact ⟨feed, .inr last⟩

/-! ## All texts -/

/-- A text without a line feed is a name exactly when it is in the grammar, and its parts are
those that the grammar finds; with a line feed this is so only of a text that is no name. Of all
texts, those are names in which either part may have a line feed after it, and those of them that
hold no blank are the ones in the grammar; a text that is no name is quoted in the fault. So a
text that is given for a name of a privilege is such a text, in which no blank stands but a line
feed at the end of a part. -/
theorem names_are_spelled (text : String) :
    ((∀ parts, ofText text = .ok parts ↔ Spelled IsLabel IsStem text parts)
        ↔ '\n' ∉ text.toList ∨ ∀ parts, ¬ Spelled (OrFed IsLabel) (OrFed IsStem) text parts)
      ∧ (∀ parts, ofText text = .ok parts ↔ Spelled (OrFed IsLabel) (OrFed IsStem) text parts)
      ∧ (∀ parts, Spelled IsLabel IsStem text parts ↔
          ofText text = .ok parts ∧ ∀ c ∈ text.toList, isBlank c = false)
      ∧ ((∀ parts, ¬ Spelled (OrFed IsLabel) (OrFed IsStem) text parts) →
          ofText text = .error (.badLabel text) ∨ ofText text = .error (.badStem text))
      ∧ ∀ entries p, Privilege.ofFields entries = .ok p → Privilege.IsGiven entries text →
          ∃ parts, Spelled (OrFed IsLabel) (OrFed IsStem) text parts
            ∧ ∀ c ∈ text.toList, isBlank c = true → c = '\n' ∧
              (parts.label.toList.getLast? = some '\n'
                ∨ parts.stem.toList.getLast? = some '\n') := by
  refine ⟨?_, fun _ => ofText_eq_ok, fun _ => spelled_iff, error_of_not_spelled,
    fun entries p made given => ?_⟩
  · constructor
    · intro meets
      by_contra both
      simp only [not_or, not_not, not_forall] at both
      obtain ⟨feed, parts, spelled⟩ := both
      have plain := (meets parts).mp (ofText_eq_ok.mpr spelled)
      exact absurd (plain.not_blank '\n' feed) (by decide)
    · intro given parts
      rw [spelled_iff]
      refine (and_iff_left_of_imp fun made c inside => ?_).symm
      rw [← Bool.not_eq_true]
      intro blank
      rcases given with noFeed | refused
      · exact noFeed ((blank_of_ofText made inside blank).1 ▸ inside)
      · exact refused parts (ofText_eq_ok.mp made)
  · obtain ⟨name, -, rfl⟩ := (Privilege.isGiven_iff made).mp given
    have accepted := name.ofText_parts
    exact ⟨name.parts, ofText_eq_ok.mp accepted, fun _ inside => blank_of_ofText accepted inside⟩

/-- A name of letters of two scripts, a text that begins with a digit, and a privilege with a
member whose label ends in a line feed. -/
theorem names_of_two_scripts_are_spelled :
    let entries := [("name", Value.text "é.1-:日=x"), ("aggregates", .list [.text "a\n:b"])]
    ('\n' ∉ "é.1-:日=x".toList ∧ Spelled IsLabel IsStem "é.1-:日=x" ⟨"é.1-", "日=x"⟩)
      ∧ ((∀ parts, ¬ Spelled (OrFed IsLabel) (OrFed IsStem) "1:a" parts)
        ∧ (ofText "1:a" = .error (.badLabel "1:a") ∨ ofText "1:a" = .error (.badStem "1:a")))
      ∧ (∃ p, Privilege.ofFields entries = .ok p) ∧ Privilege.IsGiven entries "a\n:b"
        ∧ ∃ parts, Spelled (OrFed IsLabel) (OrFed IsStem) "a\n:b" parts := by
  intro entries
  have noFeed : '\n' ∉ "é.1-:日=x".toList := by decide +kernel
  have made : ofText "é.1-:日=x" = .ok ⟨"é.1-", "日=x"⟩ := by decide +kernel
  have plain := (names_are_spelled "é.1-:日=x").1.mpr (.inl noFeed)
  obtain ⟨-, accepted, -, refused, -⟩ := names_are_spelled "1:a"
  have digit : ∀ parts, ¬ Spelled (OrFed IsLabel) (OrFed IsStem) "1:a" parts := by
    intro parts spelled
    have fault : ofText "1:a" = .error (.badLabel "1:a") := by decide +kernel
    rw [(accepted _).mpr spelled] at fault
    cases fault
  have valid : (ofText "é.1-:日=x").isOk = true := by rw [made]; rfl
  have validMember : (ofText "a\n:b").isOk = true := by decide +kernel
  have privilege : Privilege.ofFields entries
      = .ok ⟨⟨"é.1-:日=x", valid⟩, false, [⟨"a\n:b", validMember⟩]⟩ :=
    Privilege.ofFields_eq_ok.mpr ⟨rfl, rfl, .inr rfl⟩
  have member : Privilege.IsGiven entries "a\n:b" := .member _ rfl (List.mem_singleton.mpr rfl)
  obtain ⟨-, -, -, -, given⟩ := names_are_spelled "a\n:b"
  obtain ⟨parts, spelled, -⟩ := given entries _ privilege member
  exact ⟨⟨noFeed, (plain _).mp made⟩, ⟨digit, refused digit⟩, ⟨_, privilege⟩, member, parts,
    spelled⟩

/-- Texts that hold a blank are names, and a privilege can be made with them. -/
theorem final_feeds_are_not_refused :
    (ofText "a\n" = .ok ⟨"", "a\n"⟩ ∧ ofText "a\n:b" = .ok ⟨"a\n", "b"⟩)
      ∧ (∀ parts, ¬ Spelled IsLabel IsStem "a\n" parts ∧ ¬ Spelled IsLabel IsStem "a\n:b" parts)
      ∧ ∃ p : Privilege, Privilege.ofFields [("name", .text "a\n")] = .ok p
        ∧ ∃ c ∈ p.name.text.toList, isBlank c = true := by
  have made : ofText "a\n" = .ok ⟨"", "a\n"⟩ := by decide
  have valid : (ofText "a\n").isOk = true := by rw [made]; rfl
  refine ⟨⟨made, by decide +kernel⟩, fun parts => ⟨fun spelled => ?_, fun spelled => ?_⟩, ?_⟩
  · exact absurd (spelled.not_blank '\n' (by decide)) (by decide)
  · exact absurd (spelled.not_blank '\n' (by decide)) (by decide)
  · have feed : '\n' ∈ "a\n".toList := by decide
    exact ⟨⟨⟨"a\n", valid⟩, false, []⟩,
      Privilege.ofFields_eq_ok.mpr ⟨rfl, rfl, .inl ⟨.inl rfl, rfl⟩⟩, '\n', feed, rfl⟩

end QualifiedName

/-- A name neither part of which ends in a line feed has no blank. -/
theorem Name.not_blank_of_no_feed {name : Name} (last : name.text.toList.getLast? ≠ some '\n')
    (noFeed : '\n' ∉ name.label.toList) : ∀ c ∈ name.text.toList, isBlank c = false := by
  intro c inside
  rw [← Bool.not_eq_true]
  intro blank
  obtain ⟨-, label | stem⟩ := QualifiedName.blank_of_ofText name.ofText_parts inside blank
  · exact noFeed (List.mem_of_getLast? label)
  · exact last ((QualifiedName.ofText_eq_ok.mp name.ofText_parts).getLast? stem)

/-- A name that does not end in a blank and whose label holds no line feed has no blank. -/
theorem Name.not_blank {name : Name}
    (last : ∀ c, name.text.toList.getLast? = some c → isBlank c = false)
    (noFeed : '\n' ∉ name.label.toList) : ∀ c ∈ name.text.toList, isBlank c = false := by
  refine name.not_blank_of_no_feed (fun feed => ?_) noFeed
  exact absurd (last _ feed) (by decide)

end PrivilegeCatalog
