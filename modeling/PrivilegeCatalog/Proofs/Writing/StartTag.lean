import PrivilegeCatalog.Proofs.Xml.Escaping

/-!
# Written start tags are read back

The draft of a written start tag holds its name and its attributes as they were written
(`fill_tag`), and the tag may then go on or end (`Holds`). What is held at one place in the tag is
a word or a value as it is written, and no character of these leads to another place.
-/

namespace PrivilegeCatalog.Xml

/-! ## Drafts -/

/-- A key, and a value as it stands between its quotes, with a space before them. -/
def attributeWritten (key value : List Char) : List Char :=
  ' ' :: (key ++ '=' :: '"' :: (value ++ ['"']))

namespace TagDraft

/-- The draft with some more characters. -/
def fill (d : TagDraft) (cs : List Char) : Option TagDraft := cs.foldlM step d

theorem fill_append (d : TagDraft) (first second : List Char) :
    d.fill (first ++ second) = (d.fill first).bind fun d => d.fill second :=
  List.foldlM_append

theorem fill_cons (d : TagDraft) (c : Char) (rest : List Char) :
    d.fill (c :: rest) = (d.step c).bind fun d => d.fill rest :=
  List.foldlM_cons

theorem fill_nil (d : TagDraft) : d.fill [] = some d := rfl

variable {name soFar key cs : List Char} {attributes : List (List Char × List Char)}

/-- Characters that are all held at one place are held there in reverse. -/
theorem fill_held (place : List Char → TagPlace)
    (next : ∀ c ∈ cs, ∀ soFar, step ⟨name, attributes, place soFar⟩ c
      = some ⟨name, attributes, place (c :: soFar)⟩) :
    fill ⟨name, attributes, place soFar⟩ cs
      = some ⟨name, attributes, place (cs.reverse ++ soFar)⟩ := by
  induction cs generalizing soFar with
  | nil => rfl
  | cons c rest ih =>
    obtain ⟨first, others⟩ := List.forall_mem_cons.mp next
    rw [fill_cons, first soFar, Option.bind_some, ih others, List.reverse_cons, List.append_assoc,
      List.singleton_append]

theorem fill_name (word : WordChars cs) :
    fill ⟨name, attributes, .name soFar⟩ cs
      = some ⟨name, attributes, .name (cs.reverse ++ soFar)⟩ := by
  refine fill_held .name fun c inside soFar => ?_
  rw [step]
  dsimp only
  rw [if_pos (word c inside)]

theorem fill_key (word : WordChars cs) :
    fill ⟨name, attributes, .key soFar⟩ cs
      = some ⟨name, attributes, .key (cs.reverse ++ soFar)⟩ := by
  refine fill_held .key fun c inside soFar => ?_
  rw [step]
  dsimp only
  rw [if_pos (word c inside)]

theorem fill_value (value : ∀ c ∈ cs, ValueChar c) :
    fill ⟨name, attributes, .value key '"' soFar⟩ cs
      = some ⟨name, attributes, .value key '"' (cs.reverse ++ soFar)⟩ := by
  refine fill_held (.value key '"') fun c inside soFar => ?_
  obtain ⟨-, noTag, noQuote⟩ := value c inside
  rw [step]
  dsimp only
  rw [if_neg (by simpa using noQuote), if_neg (by simpa using noTag)]

/-- A place after which an attribute may follow. -/
def BeforeAttribute : TagPlace → Prop
  | .name _ | .afterValue => True
  | _ => False

theorem step_space {d : TagDraft} (before : BeforeAttribute d.place) :
    d.step ' ' = some ⟨d.word, d.attributes, .gap⟩ := by
  obtain ⟨name, attributes, place⟩ := d
  cases place with
  | name soFar => rfl
  | afterValue => rfl
  | _ => exact before.elim

theorem isWordChar_of_isWord {word : List Char} (isWord : isWord word = true) :
    WordChars word := by
  rcases word with _ | ⟨c, rest⟩
  · cases isWord
  · obtain ⟨start, others⟩ := Bool.and_eq_true_iff.mp isWord
    exact List.forall_mem_cons.mpr ⟨isWordChar_of_start start, List.all_eq_true.mp others⟩

/-- A key is held after the space before it. -/
theorem fill_spaceKey {d : TagDraft} (before : BeforeAttribute d.place) {key : List Char}
    (word : isWord key = true) :
    d.fill (' ' :: key) = some ⟨d.word, d.attributes, .key key.reverse⟩ := by
  have chars := isWordChar_of_isWord word
  rcases key with _ | ⟨c, rest⟩
  · cases word
  · obtain ⟨first, others⟩ := List.forall_mem_cons.mp chars
    have start : (c == ':' || isNameStart c) = true := (Bool.and_eq_true_iff.mp word).1
    have noSlash : c ≠ '/' := ne_of_isWordChar first (by decide)
    have begun : step ⟨d.word, d.attributes, .gap⟩ c = some ⟨d.word, d.attributes, .key [c]⟩ := by
      rw [step]
      dsimp only
      rw [isXmlBlank_of_isWordChar first, if_neg Bool.false_ne_true,
        if_neg (by simpa using noSlash), if_pos start]
    rw [fill_cons, step_space before, Option.bind_some, fill_cons, begun, Option.bind_some,
      fill_key others, List.reverse_cons]

/-- A written attribute is held as it is written. -/
theorem fill_attribute {d : TagDraft} (before : BeforeAttribute d.place) {key : List Char}
    (word : isWord key = true) {value : List Char} (text : ∀ c ∈ value, ValueChar c) :
    d.fill (attributeWritten key value)
      = some ⟨d.word, (key, value) :: d.attributes, .afterValue⟩ := by
  have shape : attributeWritten key value
      = (' ' :: key) ++ ('=' :: '"' :: (value ++ ['"'])) := rfl
  have sign : step ⟨d.word, d.attributes, .key key.reverse⟩ '='
      = some ⟨d.word, d.attributes, .beforeValue key.reverse.reverse⟩ := rfl
  have quote : step ⟨d.word, d.attributes, .beforeValue key.reverse.reverse⟩ '"'
      = some ⟨d.word, d.attributes, .value key.reverse.reverse '"' []⟩ := rfl
  have close :
    step ⟨d.word, d.attributes, .value key.reverse.reverse '"' (value.reverse ++ [])⟩ '"'
      = some ⟨d.word, (key.reverse.reverse, (value.reverse ++ []).reverse) :: d.attributes,
          .afterValue⟩ := rfl
  rw [shape, fill_append, fill_spaceKey before word, Option.bind_some, fill_cons, sign,
    Option.bind_some, fill_cons, quote, Option.bind_some, fill_append, fill_value text,
    Option.bind_some, fill_cons, close, Option.bind_some, fill_nil]
  simp only [List.append_nil, List.reverse_reverse]

end TagDraft

/-- Attributes as they are written: words for keys, and values that do not end themselves. -/
def Writable (attributes : List (List Char × List Char)) : Prop :=
  ∀ a ∈ attributes, isWord a.1 = true ∧ ∀ c ∈ a.2, ValueChar c

/-- Attributes one after another. -/
def attributesText (attributes : List (List Char × List Char)) : List Char :=
  attributes.flatMap fun a => attributeWritten a.1 a.2

namespace TagDraft

/-- A draft holds the name and the attributes, and the tag may go on or end. -/
structure Holds (d : TagDraft) (word : List Char) (attributes : List (List Char × List Char)) :
    Prop where
  word : d.word = word
  attributes : d.attributes.reverse = attributes
  place : BeforeAttribute d.place

/-- Written attributes are held in their order. -/
theorem fill_attributes {d : TagDraft} {word : List Char} {earlier : List (List Char × List Char)}
    (holds : d.Holds word earlier) {attributes : List (List Char × List Char)}
    (writable : Writable attributes) :
    ∃ d', d.fill (attributesText attributes) = some d'
      ∧ d'.Holds word (earlier ++ attributes) := by
  induction attributes generalizing d earlier with
  | nil =>
    refine ⟨d, rfl, ?_⟩
    rwa [List.append_nil]
  | cons a rest ih =>
    obtain ⟨⟨key, text⟩, others⟩ := List.forall_mem_cons.mp writable
    have next : Holds ⟨d.word, a :: d.attributes, .afterValue⟩ word (earlier ++ [a]) :=
      ⟨holds.word, by rw [List.reverse_cons, holds.attributes], trivial⟩
    obtain ⟨d', filled, holds'⟩ := ih next others
    refine ⟨d', ?_, ?_⟩
    · rw [attributesText, List.flatMap_cons, fill_append, fill_attribute holds.place key text]
      exact filled
    · rwa [List.append_assoc, List.singleton_append] at holds'

/-- A written start tag is held as it is written. -/
theorem fill_tag {c : Char} {rest : List Char} (word : isWord (c :: rest) = true)
    {attributes : List (List Char × List Char)} (writable : Writable attributes) :
    ∃ d d', start? c = some d ∧ d.fill (rest ++ attributesText attributes) = some d'
      ∧ d'.Holds (c :: rest) attributes := by
  have start : (c == ':' || isNameStart c) = true := (Bool.and_eq_true_iff.mp word).1
  have others : WordChars rest := List.all_eq_true.mp (Bool.and_eq_true_iff.mp word).2
  have named : Holds ⟨[], [], .name (rest.reverse ++ [c])⟩ (c :: rest) [] :=
    ⟨by simp [TagDraft.word], rfl, trivial⟩
  obtain ⟨d', filled, holds⟩ := fill_attributes named writable
  refine ⟨⟨[], [], .name [c]⟩, d', ?_, ?_, holds⟩
  · rw [start?, if_pos start]
  · rw [fill_append, fill_name others]
    exact filled

variable {d : TagDraft} {word : List Char} {attributes : List (List Char × List Char)}

theorem Holds.canClose (holds : d.Holds word attributes) : d.canClose = true := by
  obtain ⟨name, held, place⟩ := d
  cases place with
  | name soFar => rfl
  | afterValue => rfl
  | _ => exact holds.place.elim

theorem Holds.isEmptyElement (holds : d.Holds word attributes) : d.isEmptyElement = false := by
  obtain ⟨name, held, place⟩ := d
  cases place with
  | name soFar => rfl
  | afterValue => rfl
  | _ => exact holds.place.elim

theorem Holds.step_slash (holds : d.Holds word attributes) :
    d.step '/' = some ⟨d.word, d.attributes, .slash⟩ := by
  obtain ⟨name, held, place⟩ := d
  cases place with
  | name soFar => rfl
  | afterValue => rfl
  | _ => exact holds.place.elim

end TagDraft

end PrivilegeCatalog.Xml
