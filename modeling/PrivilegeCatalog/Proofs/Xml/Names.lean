import Mathlib.Data.List.TakeWhile
import PrivilegeCatalog.Proofs.Xml.Shape

/-!
# Names in a sound document

In a document that keeps the rules of namespaces each tag has a name without colons, and so have
the labels that are declared. Drafts hold words and texts only (`TagDraft.Proper`), words give
plain names when they are sound (`RawName.Plain`), and `Element.Made` takes the making of an
element apart for everything that is said about elements.
-/

namespace PrivilegeCatalog.Xml

/-! ## Drafts -/

/-- All characters may stand in a name with colons. -/
def WordChars (cs : List Char) : Prop := ∀ c ∈ cs, isWordChar c = true

/-- All characters may stand in a document. -/
def XmlChars (cs : List Char) : Prop := ∀ c ∈ cs, isXmlChar c = true

theorem WordChars.reverse {cs : List Char} (word : WordChars cs) : WordChars cs.reverse :=
  fun c inside => word c (List.mem_reverse.mp inside)

theorem XmlChars.reverse {cs : List Char} (text : XmlChars cs) : XmlChars cs.reverse :=
  fun c inside => text c (List.mem_reverse.mp inside)

namespace TagDraft

/-- What is held at a place in a tag are words and the text of a value. -/
def ProperPlace : TagPlace → Prop
  | .name soFar | .key soFar => WordChars soFar
  | .beforeSign key | .beforeValue key => WordChars key
  | .value key _ soFar => WordChars key ∧ XmlChars soFar
  | .gap | .afterValue | .slash => True

/-- A draft of words and texts. -/
structure Proper (d : TagDraft) : Prop where
  name : WordChars d.name
  attributes : ∀ a ∈ d.attributes, WordChars a.1 ∧ XmlChars a.2
  place : ProperPlace d.place

variable {d d' : TagDraft} {c : Char}

theorem isWordChar_of_start (start : (c == ':' || isNameStart c) = true) :
    isWordChar c = true := by
  rw [isWordChar, Bool.or_eq_true]
  rw [Bool.or_eq_true] at start
  refine start.imp_right fun start => ?_
  simp only [isNameChar, start, Bool.true_or]

theorem start?_proper (begun : start? c = some d) : d.Proper := by
  unfold start? at begun
  split at begun
  case isTrue start =>
    cases begun
    refine ⟨nofun, nofun, ?_⟩
    intro d inside
    rw [List.mem_singleton.mp inside]
    exact isWordChar_of_start start
  case isFalse => cases begun

/-- A further character that may stand in a document keeps a draft proper. -/
theorem Proper.step (proper : d.Proper) (character : isXmlChar c = true)
    (next : d.step c = some d') : d'.Proper := by
  obtain ⟨name, attributes, place⟩ := proper
  rw [TagDraft.step] at next
  cases at_ : d.place <;> rw [at_] at next place <;> dsimp only [ProperPlace] at next place
  case name soFar =>
    split_ifs at next with word blank slash <;> cases next
    · exact ⟨name, attributes, List.forall_mem_cons.mpr ⟨word, place⟩⟩
    · exact ⟨place.reverse, attributes, trivial⟩
    · exact ⟨place.reverse, attributes, trivial⟩
  case gap =>
    split_ifs at next with blank slash start <;> cases next
    · exact ⟨name, attributes, by rw [at_]; trivial⟩
    · exact ⟨name, attributes, trivial⟩
    · exact ⟨name, attributes, List.forall_mem_cons.mpr ⟨isWordChar_of_start start, nofun⟩⟩
  case key soFar =>
    split_ifs at next with word sign blank <;> cases next
    · exact ⟨name, attributes, List.forall_mem_cons.mpr ⟨word, place⟩⟩
    · exact ⟨name, attributes, place.reverse⟩
    · exact ⟨name, attributes, place.reverse⟩
  case beforeSign key =>
    split_ifs at next with blank sign <;> cases next
    · exact ⟨name, attributes, by rw [at_]; exact place⟩
    · exact ⟨name, attributes, place⟩
  case beforeValue key =>
    split_ifs at next with blank quote <;> cases next
    · exact ⟨name, attributes, by rw [at_]; exact place⟩
    · exact ⟨name, attributes, place, nofun⟩
  case value key quote soFar =>
    split_ifs at next with close markup <;> cases next
    · exact ⟨name, List.forall_mem_cons.mpr ⟨⟨place.1, place.2.reverse⟩, attributes⟩, trivial⟩
    · exact ⟨name, attributes, place.1, List.forall_mem_cons.mpr ⟨character, place.2⟩⟩
  case afterValue =>
    split_ifs at next with blank slash <;> cases next
    · exact ⟨name, attributes, trivial⟩
    · exact ⟨name, attributes, trivial⟩
  case slash => cases next

theorem Proper.word (proper : d.Proper) : WordChars d.word := by
  have place := proper.place
  rw [TagDraft.word]
  cases at_ : d.place
  case name soFar =>
    rw [at_] at place
    exact place.reverse
  all_goals exact proper.name

end TagDraft

/-! ## Words -/

theorem isXmlChar_of_isWordChar {c : Char} (word : isWordChar c = true) : isXmlChar c = true := by
  simp only [isWordChar, isNameChar, isNameStart, isXmlChar, Bool.or_eq_true, Bool.and_eq_true,
    decide_eq_true_iff, beq_iff_eq] at word ⊢
  rcases word with colon | word
  · subst colon
    decide
  · omega

/-- A character that no word holds is none of a word. -/
theorem ne_of_isWordChar {c d : Char} (word : isWordChar c = true)
    (other : isWordChar d = false) : c ≠ d := by
  intro same
  rw [same, other] at word
  exact Bool.false_ne_true word

theorem isXmlBlank_of_isWordChar {c : Char} (word : isWordChar c = true) :
    Text.isXmlBlank c = false := by
  simp only [Text.isXmlBlank, Bool.or_eq_false_iff, beq_eq_false_iff_ne]
  exact ⟨⟨⟨ne_of_isWordChar word (by decide), ne_of_isWordChar word (by decide)⟩,
    ne_of_isWordChar word (by decide)⟩, ne_of_isWordChar word (by decide)⟩

theorem isNameChar_of_isPlainName {cs : List Char} (plain : isPlainName cs = true) :
    ∀ c ∈ cs, isNameChar c = true := by
  cases cs with
  | nil => cases plain
  | cons first rest =>
    obtain ⟨start, others⟩ := Bool.and_eq_true_iff.mp plain
    refine List.forall_mem_cons.mpr ⟨?_, List.all_eq_true.mp others⟩
    rw [isNameChar, start]
    rfl

theorem wordChars_of_isPlainName {cs : List Char} (plain : isPlainName cs = true) :
    WordChars cs := by
  intro c inside
  rw [isWordChar, isNameChar_of_isPlainName plain c inside, Bool.or_true]

/-- Both parts of a name have no colons. -/
structure RawName.Plain (name : RawName) : Prop where
  label : ∀ label, name.label = some label → isPlainName label.toList = true
  stem : isPlainName name.stem.toList = true

theorem isNameChar_of_ne_colon {c : Char} (word : isWordChar c = true) (apart : c ≠ ':') :
    isNameChar c = true := by
  rw [isWordChar, Bool.or_eq_true, beq_iff_eq] at word
  exact word.resolve_left apart

/-- A part of a word that starts as a name and holds no colon is a name. -/
theorem isPlainName_of_word {cs : List Char} (word : WordChars cs)
    (start : RawName.startsName cs = true) (apart : ':' ∉ cs) : isPlainName cs = true := by
  rcases cs with _ | ⟨c, rest⟩
  · cases start
  · rw [isPlainName, Bool.and_eq_true, List.all_eq_true]
    refine ⟨start, fun d inside => ?_⟩
    have others : d ∈ c :: rest := List.mem_cons_of_mem _ inside
    apply isNameChar_of_ne_colon (word d others)
    intro colon
    exact apart (colon ▸ others)

/-- The part of a word before its first colon is a name, when the word starts as one. -/
theorem isPlainName_takeWhile {c : Char} {tail : List Char} (word : WordChars (c :: tail))
    (start : isNameStart c = true) : isPlainName ((c :: tail).takeWhile (· != ':')) = true := by
  have apart : (c != ':') = true := by
    rw [bne_iff_ne]
    intro colon
    rw [colon] at start
    revert start
    decide
  apply isPlainName_of_word
  · exact fun d inside => word d (List.takeWhile_subset _ inside)
  · rw [List.takeWhile_cons, if_pos apart]
    exact start
  · intro inside
    exact absurd (List.mem_takeWhile_imp inside) (by decide)

/-- The part of a word after its first colon is a name, when it starts as one and holds no
other. -/
theorem isPlainName_of_dropWhile {cs : List Char} (word : WordChars cs)
    (start : RawName.startsName cs = true) (none : cs.dropWhile (· != ':') = []) :
    isPlainName cs = true := by
  rw [List.dropWhile_eq_nil_iff] at none
  apply isPlainName_of_word word start
  intro inside
  exact absurd (none _ inside) (by decide)

/-- A sound word is cut into plain parts. -/
theorem RawName.plain_of_ofWord {word : List Char} {name : RawName} (chars : WordChars word)
    (made : ofWord word = some name) (sound : name.sound = true) : name.Plain := by
  unfold ofWord at made
  dsimp only at made
  split at made
  case h_1 => cases made
  case h_2 =>
    cases made
    cases sound
  case h_3 c tail _ none =>
    split_ifs at made with start
    cases made
    refine ⟨nofun, ?_⟩
    rw [String.toList_ofList]
    exact isPlainName_of_dropWhile chars start none
  case h_4 c tail colon rest _ cut =>
    have within : WordChars rest := fun d inside =>
      chars d (List.dropWhile_subset _ (cut ▸ List.mem_cons_of_mem _ inside))
    split_ifs at made with refused stemless
    · cases made
      cases sound
    · rw [Bool.not_eq_true', Bool.not_eq_false] at refused stemless
      split at made
      case h_1 none =>
        cases made
        refine ⟨?_, ?_⟩
        · intro label same
          cases same
          rw [String.toList_ofList]
          exact isPlainName_takeWhile chars refused
        · rw [String.toList_ofList]
          exact isPlainName_of_dropWhile within stemless none
      case h_2 =>
        cases made
        cases sound
      case h_3 =>
        split_ifs at made
        cases made
        cases sound

/-! ## Elements -/

section

variable {doctype : Doctype} {standalone : Bool} {scope : Scope} {line allowance : Nat}
  {draft : TagDraft} {e : Element}

/-- An element was made of a draft with these names, attributes and declarations. -/
structure Element.Made (doctype : Doctype) (standalone : Bool) (allowance : Nat)
    (draft : TagDraft) (e : Element) (name : RawName) (attributes : List Attribute)
    (declared : Declared) : Prop where
  named : RawName.ofWord draft.word = some name
  read : ∃ left, readAttributes doctype standalone draft.word draft.attributes.reverse allowance
    = some (attributes, left)
  judged : declaredBy attributes = some declared
  declarations : e.declarations
    = (declared.withDefaults (defaultAttributes doctype draft.word)).bindings.reverse
  text : e.tag.text = (expandElement e.scope name).text
  values : ∀ a ∈ e.tag.attributes, ∃ b ∈ attributes ++ defaultAttributes doctype draft.word,
    b.value = a.2
  sound : e.sound = true → declared.sound = true ∧ name.sound = true
    ∧ (expandElement e.scope name).known = true ∧ ∀ a ∈ attributes, a.name.sound = true

/-- Defaults are not judged. -/
theorem Declared.sound_withDefaults (d : Declared) (defaults : List Attribute) :
    (d.withDefaults defaults).sound = d.sound := by
  unfold withDefaults
  induction defaults generalizing d with
  | nil => rfl
  | cons a rest ih =>
    rw [List.foldl_cons, ih]
    split
    · split <;> rfl
    · rfl

/-- Each element is made in that way. -/
theorem Element.exists_made
    (made : ofDraft doctype standalone scope line allowance draft = some e) :
    ∃ name attributes declared,
      Made doctype standalone allowance draft e name attributes declared := by
  simp only [ofDraft, Option.bind_eq_bind, Option.bind_eq_some_iff, Option.pure_def,
    Option.some.injEq, Prod.exists] at made
  obtain ⟨name, named, attributes, left, read, declared, judged, apart, -, rfl⟩ := made
  refine ⟨name, attributes, declared, named, ⟨left, read⟩, judged, rfl, rfl, ?_, ?_⟩
  · intro a inside
    simp only [List.mem_map, List.mem_filter, List.mem_append] at inside
    obtain ⟨b, ⟨⟨inside, -⟩ | ⟨⟨inside, -⟩, -⟩, -⟩, rfl⟩ := inside
    · exact ⟨b, List.mem_append_left _ inside, rfl⟩
    · exact ⟨b, List.mem_append_right _ inside, rfl⟩
  · intro sound
    simp only [Bool.and_eq_true, List.all_eq_true] at sound
    obtain ⟨⟨⟨⟨⟨judgedSound, -⟩, nameSound⟩, known⟩, attributesSound⟩, -⟩ := sound
    rw [Declared.sound_withDefaults] at judgedSound
    exact ⟨judgedSound, nameSound, known, attributesSound⟩

theorem expandElement_text {name : RawName} (known : (expandElement scope name).known = true) :
    (expandElement scope name).text = name.stem := by
  unfold expandElement at known ⊢
  cases labelled : name.label with
  | none => rfl
  | some label =>
    simp only [expandLabelled, labelled] at known ⊢
    cases uri : scope.uri? label with
    | none =>
      rw [uri] at known
      cases known
    | some uri => rfl

/-- A sound element has a plain name. -/
theorem Element.isPlainName_text (proper : draft.Proper)
    (made : ofDraft doctype standalone scope line allowance draft = some e)
    (sound : e.sound = true) : isPlainName e.tag.text.toList = true := by
  obtain ⟨name, attributes, declared, made⟩ := exists_made made
  obtain ⟨-, nameSound, known, -⟩ := made.sound sound
  rw [made.text, expandElement_text known]
  exact (RawName.plain_of_ofWord proper.word made.named nameSound).stem

end

/-! ## Documents -/

namespace Scan

/-- Start tags that are read are proper, and while the document is sound all tags so far have
plain names. -/
structure Named (s : Scan) : Prop where
  proper : ∀ d, s.mode = .startTag d → d.Proper
  plain : s.sound = true → ∀ tag, .starts tag ∈ s.events → isPlainName tag.text.toList = true

/-- Start tags stay proper. -/
theorem Keeps.proper {s s' : Scan} {c : Char} (kept : Keeps s c s')
    (character : isXmlChar c = true) (proper : ∀ d, s.mode = .startTag d → d.Proper) :
    ∀ d, s'.mode = .startTag d → d.Proper := by
  intro d' mode
  rcases kept.startTag d' mode with ⟨d, before, next⟩ | ⟨-, begun⟩
  · exact (proper d before).step character next
  · exact TagDraft.start?_proper begun

/-- A start tag tells of one start. -/
theorem starts_mem_opened {s : Scan} {draft : TagDraft} {e : Element} {tag : Tag} :
    .starts tag ∈ (s.opened draft e).events ↔ tag = e.tag ∨ .starts tag ∈ s.events := by
  cases empty : draft.isEmptyElement <;> simp [opened, empty]

/-- A start tag tells of its declarations. -/
theorem declares_mem_opened {s : Scan} {draft : TagDraft} {e : Element} {label uri : String} :
    .declares label uri ∈ (s.opened draft e).events
      ↔ (label, uri) ∈ e.declarations ∨ .declares label uri ∈ s.events := by
  cases empty : draft.isEmptyElement <;> simp [opened, empty]

/-- An end tag tells of no start. -/
theorem starts_mem_closed {s : Scan} {left : List OpenElement} {tag : Tag} :
    .starts tag ∈ (s.closed left).events ↔ .starts tag ∈ s.events := by
  simp [closed]

/-- An end tag tells of no declaration. -/
theorem declares_mem_closed {s : Scan} {left : List OpenElement} {label uri : String} :
    .declares label uri ∈ (s.closed left).events ↔ .declares label uri ∈ s.events := by
  simp [closed]

/-- A character keeps names plain. -/
theorem transition_named {s s' : Scan} {c : Char} (named : Named s)
    (character : isXmlChar c = true) (next : Transition s c s') :
    s'.mode = .broken ∨ Named s' := by
  cases next with
  | breaks broken => exact .inl broken
  | keeps kept =>
    refine .inr ⟨kept.proper character named.proper, fun sound tag told => ?_⟩
    rw [kept.events] at told
    exact named.plain (kept.sound sound) tag told
  | @opens draft e inTag made =>
    refine .inr ⟨nofun, fun sound tag told => ?_⟩
    obtain ⟨before, sound⟩ := Bool.and_eq_true_iff.mp sound
    rcases starts_mem_opened.mp told with same | told
    · rw [same]
      exact Element.isPlainName_text (named.proper draft inTag) made sound
    · exact named.plain before tag told
  | closes _ =>
    exact .inr ⟨nofun, fun sound tag told => named.plain sound tag (starts_mem_closed.mp told)⟩
  | declares _ _ =>
    exact .inr ⟨nofun, fun sound => named.plain (Bool.and_eq_true_iff.mp sound).1⟩

theorem Named.count {s : Scan} (c : Char) (named : Named s) : Named (s.count c) :=
  ⟨named.proper, named.plain⟩

/-- The tags of a whole document have plain names. -/
theorem isPlainName_of_whole {cs : List Char} (whole : (Document.ofChars cs).wellFormed = true)
    {tag : Tag} (told : .starts tag ∈ (Document.ofChars cs).events) :
    isPlainName tag.text.toList = true := by
  obtain ⟨-, -, sound⟩ := isWhole_iff.mp whole
  have named : Named (ofChars cs) :=
    holds_of_whole ⟨nofun, nofun⟩
      (fun named character next => transition_named named character next)
      (fun c named => named.count c) whole
  exact named.plain sound tag (List.mem_reverse.mp told)

end Scan

end PrivilegeCatalog.Xml
