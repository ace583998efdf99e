import PrivilegeCatalog.Proofs.Xml.Doctype.Texts

/-!
# What a document declares

The rules of XML for a declaration are kept by every declaration in a start tag of a sound
document (`permitted_of_judge`). A declaration that an element has by default, from the document
type, is not held to them. All values in a document are texts, those of declarations included
(`Told`).
-/

namespace PrivilegeCatalog.Xml

/-! ## Rules for declarations -/

/-- A binding that a document may declare: its label is not the one of declarations, and its
namespace is none of those that XML keeps for itself. -/
def isOpen (binding : String × String) : Bool :=
  binding.1 ≠ declarationLabel && binding.2 ≠ reservedUri && binding.2 ≠ declarationUri

/-- A binding whose label is plain and whose namespace is a reference; XML does not make it by
itself. -/
structure Declarable (binding : String × String) : Prop where
  plain : isPlainName binding.1.toList = true
  label : binding.1 ≠ "" ∧ binding.1 ≠ reservedLabel
  uri : binding.2 ≠ "" ∧ isUriReference binding.2 = true

instance (b : String × String) : Decidable (Declarable b) :=
  decidable_of_iff (isPlainName b.1.toList = true ∧ (b.1 ≠ "" ∧ b.1 ≠ reservedLabel)
      ∧ b.2 ≠ "" ∧ isUriReference b.2 = true)
    ⟨fun given => ⟨given.1, given.2.1, given.2.2⟩,
      fun given => ⟨given.plain, given.label, given.uri⟩⟩

/-- Of the declarable bindings those count that are open, and the others are unsound. -/
theorem judgeDeclaration_declarable {b : String × String} (declarable : Declarable b) :
    judgeDeclaration b.1 b.2 = (isOpen b, isOpen b) := by
  obtain ⟨-, ⟨label, notXml⟩, ⟨uri, reference⟩⟩ := declarable
  rw [judgeDeclaration, if_neg label, if_neg notXml, isOpen]
  by_cases reserved : b.2 = reservedUri <;> by_cases other : b.1 = declarationLabel <;>
    by_cases declares : b.2 = declarationUri <;> simp [reserved, other, declares, uri, reference]

/-- One more attribute, which may be a declaration. -/
def Declared.take (d : Declared) (a : Attribute) : Option Declared :=
  match a.declares? with
  | some label => d.add label a.value
  | none => some d

theorem declaredBy_eq (attributes : List Attribute) :
    declaredBy attributes = attributes.foldlM Declared.take ⟨[], true⟩ := rfl

/-- A binding that a start tag may declare under a label. -/
structure Permitted (b : String × String) : Prop where
  declarable : Declarable b
  isOpen : isOpen b = true

instance (b : String × String) : Decidable (Permitted b) :=
  decidable_of_iff (Declarable b ∧ isOpen b = true)
    ⟨fun given => ⟨given.1, given.2⟩, fun given => ⟨given.declarable, given.isOpen⟩⟩

/-- A declaration under a plain label that counts and is sound keeps the rules. -/
theorem permitted_of_judge {label uri : String} (plain : isPlainName label.toList = true)
    (judged : judgeDeclaration label uri = (true, true)) : Permitted (label, uri) := by
  have named : label ≠ "" := by
    intro empty
    rw [empty] at plain
    cases plain
  rw [judgeDeclaration, if_neg named] at judged
  split_ifs at judged with xml kept
  · cases judged
  · cases judged
  · obtain ⟨-, reference⟩ := Prod.mk.inj judged
    simp only [not_or] at kept
    obtain ⟨reserved, declares, other, some_⟩ := kept
    refine ⟨⟨plain, ⟨named, xml⟩, ⟨some_, reference⟩⟩, ?_⟩
    simp [isOpen, reserved, declares, other]

/-- The declarations that have been made keep the rules, as long as they are sound. -/
def Declared.Kept (attributes : List Attribute) (d : Declared) : Prop :=
  ∀ b ∈ d.bindings, (∃ a ∈ attributes, a.declares? = some b.1 ∧ a.value = b.2)
    ∧ (d.sound = true → judgeDeclaration b.1 b.2 = (true, true))

theorem Declared.kept_add {attributes : List Attribute} {d d' : Declared} {a : Attribute}
    {label : String} (kept : d.Kept attributes) (inside : a ∈ attributes)
    (declares : a.declares? = some label) (added : d.add label a.value = some d') :
    d'.Kept attributes := by
  -- A fault of this declaration is one of the whole, so the earlier ones need no second look.
  have old : ∀ fine, ∀ b ∈ d.bindings, (∃ a ∈ attributes, a.declares? = some b.1 ∧ a.value = b.2)
      ∧ ((d.sound && fine) = true → judgeDeclaration b.1 b.2 = (true, true)) :=
    fun fine b held =>
      ⟨(kept b held).1, fun both => (kept b held).2 (Bool.and_eq_true_iff.mp both).1⟩
  unfold add at added
  cases judged : judgeDeclaration label a.value with
  | mk counts sound =>
    rw [judged] at added
    dsimp only at added
    split_ifs at added with counted
    · cases added
      intro b held
      rcases List.mem_cons.mp held with same | held
      · rw [same]
        refine ⟨⟨a, inside, declares, rfl⟩, fun both => ?_⟩
        rw [judged, counted, (Bool.and_eq_true_iff.mp both).2]
      · exact old sound b held
    · cases added
      exact old sound

/-- The declarations in a start tag are made by its attributes, and keep the rules if they are
sound. -/
theorem kept_declaredBy {attributes : List Attribute} {d : Declared}
    (judged : declaredBy attributes = some d) : d.Kept attributes := by
  rw [declaredBy_eq] at judged
  refine foldlM_keeps (P := fun d => d.Kept attributes) ?_ nofun judged
  intro d kept a inside d' taken
  unfold Declared.take at taken
  split at taken
  case h_1 label declares => exact Declared.kept_add kept inside declares taken
  case h_2 =>
    cases taken
    exact kept

/-! ## Attributes of a start tag -/

/-- An element declares a binding by default. -/
def Doctype.Gives (d : Doctype) (b : String × String) : Prop :=
  ∃ element, ∃ a ∈ defaultAttributes d element, a.declares? = some b.1 ∧ a.value = b.2

/-- No element declares a binding by default. -/
def Doctype.Silent (d : Doctype) : Prop :=
  ∀ element, ∀ a ∈ defaultAttributes d element, a.declares? = none

section

variable {doctype : Doctype} {standalone : Bool} {element : List Char} {allowance left : Nat}

/-- An attribute whose name is written as a word and whose value is a text. -/
structure Attribute.Proper (a : Attribute) : Prop where
  word : ∃ key, WordChars key ∧ RawName.ofWord key = some a.name
  value : XmlChars a.value.toList

theorem proper_readAttributes (textual : doctype.Textual) {pairs : List (List Char × List Char)}
    {attributes : List Attribute} (proper : ∀ pair ∈ pairs, WordChars pair.1 ∧ XmlChars pair.2)
    (read : readAttributes doctype standalone element pairs allowance = some (attributes, left)) :
    ∀ a ∈ attributes, a.Proper := by
  induction pairs generalizing attributes allowance left with
  | nil =>
    cases read
    exact nofun
  | cons pair rest ih =>
    obtain ⟨⟨word, text⟩, others⟩ := List.forall_mem_cons.mp proper
    simp only [readAttributes, Option.bind_eq_bind, Option.bind_eq_some_iff, Prod.exists,
      Option.pure_def, Option.some.injEq, Prod.mk.injEq] at read
    obtain ⟨name, named, value, allowance', valued, later, left', readOthers, same, -⟩ := read
    have chars := xmlChars_attributeValue textual.entities text valued
    rw [← same]
    refine List.forall_mem_cons.mpr ⟨⟨⟨pair.1, word, named⟩, ?_⟩, ih others readOthers⟩
    rw [String.toList_ofList]
    split
    · exact xmlChars_tokens chars
    · exact chars

theorem xmlChars_defaultAttributes (textual : doctype.Textual) :
    ∀ a ∈ defaultAttributes doctype element, XmlChars a.value.toList := by
  intro a inside
  rw [defaultAttributes, List.mem_filterMap] at inside
  obtain ⟨rule, held, made⟩ := inside
  split at made
  case h_1 value name fallback _ =>
    cases made
    rw [String.toList_ofList]
    exact textual.rules rule (List.mem_filter.mp held).1 value fallback
  case h_2 => cases made

/-- Defaults add to the declarations of a start tag only what they declare. -/
theorem mem_withDefaults {defaults : List Attribute} {d : Declared} {b : String × String}
    (held : b ∈ (d.withDefaults defaults).bindings) :
    b ∈ d.bindings ∨ ∃ a ∈ defaults, a.declares? = some b.1 ∧ a.value = b.2 := by
  unfold Declared.withDefaults at held
  induction defaults generalizing d with
  | nil => exact .inl held
  | cons a rest ih =>
    rw [List.foldl_cons] at held
    rcases ih held with first | ⟨other, inside, declares⟩
    · split at first
      case h_1 label declares =>
        split at first
        · exact .inl first
        · rcases List.mem_cons.mp first with same | old
          · rw [same]
            exact .inr ⟨a, List.mem_cons_self .., declares, rfl⟩
          · exact .inl old
      case h_2 => exact .inl first
    · exact .inr ⟨other, List.mem_cons_of_mem _ inside, declares⟩

/-- An attribute with a sound name declares under a plain label, or it declares the default
namespace. -/
theorem plain_of_declares {a : Attribute} {label : String} (proper : a.Proper)
    (sound : a.name.sound = true) (declares : a.declares? = some label) (named : label ≠ "") :
    isPlainName label.toList = true := by
  obtain ⟨key, word, made⟩ := proper.word
  have plain := RawName.plain_of_ofWord word made sound
  unfold Attribute.declares? at declares
  split at declares
  case h_1 =>
    split at declares
    · cases declares
      exact (named rfl).elim
    · cases declares
  case h_2 =>
    split at declares
    · cases declares
      exact plain.stem
    · cases declares

/-- The values of an element are texts, and each namespace under a label is permitted or given by
default. -/
structure Element.Lawful (doctype : Doctype) (e : Element) : Prop where
  values : ∀ a ∈ e.tag.attributes, XmlChars a.2.toList
  uris : ∀ b ∈ e.declarations, XmlChars b.2.toList
  permitted : e.sound = true → ∀ b ∈ e.declarations, b.1 ≠ "" → Permitted b ∨ doctype.Gives b

theorem Element.lawful_of_made {scope : Scope} {line : Nat} {draft : TagDraft} {e : Element}
    (textual : doctype.Textual) (proper : draft.Proper)
    (made : ofDraft doctype standalone scope line allowance draft = some e) :
    e.Lawful doctype := by
  obtain ⟨name, attributes, declared, made⟩ := exists_made made
  obtain ⟨left, read⟩ := made.read
  have given := proper_readAttributes textual
    (fun pair inside => proper.attributes pair (List.mem_reverse.mp inside)) read
  have defaults := @xmlChars_defaultAttributes doctype draft.word textual
  have kept := kept_declaredBy made.judged
  have sources : ∀ b ∈ e.declarations, b ∈ declared.bindings
      ∨ ∃ a ∈ defaultAttributes doctype draft.word, a.declares? = some b.1 ∧ a.value = b.2 := by
    intro b inside
    rw [made.declarations] at inside
    exact mem_withDefaults (List.mem_reverse.mp inside)
  refine ⟨?_, ?_, ?_⟩
  · intro a inside
    obtain ⟨b, held, same⟩ := made.values a inside
    rw [← same]
    rcases List.mem_append.mp held with held | held
    · exact (given b held).value
    · exact defaults b held
  · intro b inside
    rcases sources b inside with held | ⟨a, held, -, same⟩
    · obtain ⟨⟨a, held, -, same⟩, -⟩ := kept b held
      rw [← same]
      exact (given a held).value
    · rw [← same]
      exact defaults a held
  · intro sound b inside named
    obtain ⟨judgedSound, -, -, attributesSound⟩ := made.sound sound
    rcases sources b inside with held | ⟨a, held, declares, same⟩
    · obtain ⟨⟨a, inside, declares, -⟩, judged⟩ := kept b held
      have plain := plain_of_declares (given a inside) (attributesSound a inside) declares named
      exact .inl (permitted_of_judge plain (judged judgedSound))
    · exact .inr ⟨draft.word, a, held, declares, same⟩

end

/-! ## Documents -/

namespace Scan

/-- What a document has told so far are texts, and each namespace that it declares under a label
is permitted or given by its type, while it is sound. -/
structure Told (s : Scan) : Prop where
  ordered : Ordered s
  proper : ∀ d, s.mode = .startTag d → d.Proper
  typeText : ∀ text, s.mode = .doctype text → XmlChars text
  textual : s.type.Textual
  values : ∀ tag, .starts tag ∈ s.events → ∀ a ∈ tag.attributes, XmlChars a.2.toList
  uris : ∀ label uri, .declares label uri ∈ s.events → XmlChars uri.toList
  permitted : s.sound = true → ∀ label uri, .declares label uri ∈ s.events → label ≠ "" →
    Permitted (label, uri) ∨ s.type.Gives (label, uri)

/-- Nothing has been told when a document type is declared. -/
theorem Ordered.events_of_doctype {s : Scan} (ordered : Ordered s) {text : List Char}
    (mode : s.mode = .doctype text) : s.events = [] := by
  have prolog := ordered.doctypeText text mode
  cases ordered.shape with
  | before _ _ events => exact events
  | inside stage _ _ =>
    rw [prolog] at stage
    cases stage
  | after stage _ _ =>
    rw [prolog] at stage
    cases stage

theorem Told.count {s : Scan} (c : Char) (told : Told s) : Told (s.count c) where
  ordered := told.ordered.count
  proper := told.proper
  typeText := told.typeText
  textual := told.textual
  values := told.values
  uris := told.uris
  permitted := told.permitted

section

variable {s s' : Scan} {c : Char}

theorem Told.keeps (told : Told s) (ordered : Ordered s') (character : isXmlChar c = true)
    (kept : Keeps s c s') : Told s' := by
  have type_ : s'.type = s.type := congrArg (·.getD {}) kept.doctype
  refine ⟨ordered, kept.proper character told.proper, ?_, ?_, ?_, ?_, ?_⟩
  · intro text mode
    rcases kept.doctypeText text mode with ⟨soFar, before, same⟩ | ⟨same, -⟩
    · rw [same]
      exact .cons character (told.typeText soFar before)
    · rw [same]
      exact .nil
  · rw [type_]
    exact told.textual
  · rw [kept.events]
    exact told.values
  · rw [kept.events]
    exact told.uris
  · rw [kept.events, type_]
    exact fun sound => told.permitted (kept.sound sound)

theorem Told.opened {draft : TagDraft} {e : Element} (told : Told s)
    (ordered : Ordered (s.opened draft e)) (inTag : s.mode = .startTag draft)
    (made : Element.ofDraft s.type s.standalone s.scope s.line s.allowance draft = some e) :
    Told (s.opened draft e) := by
  have lawful := Element.lawful_of_made told.textual (told.proper draft inTag) made
  refine ⟨ordered, nofun, nofun, told.textual, ?_, ?_, ?_⟩
  · intro tag inside
    rcases starts_mem_opened.mp inside with same | old
    · rw [same]
      exact lawful.values
    · exact told.values tag old
  · intro label uri inside
    rcases declares_mem_opened.mp inside with held | old
    · exact lawful.uris (label, uri) held
    · exact told.uris label uri old
  · intro sound label uri inside named
    obtain ⟨before, sound⟩ := Bool.and_eq_true_iff.mp sound
    rcases declares_mem_opened.mp inside with held | old
    · exact lawful.permitted sound (label, uri) held named
    · exact told.permitted before label uri old named

theorem Told.closed {left : List OpenElement} (told : Told s)
    (ordered : Ordered (s.closed left)) : Told (s.closed left) := by
  refine ⟨ordered, nofun, nofun, told.textual, ?_, ?_, ?_⟩
  · exact fun tag inside => told.values tag (starts_mem_closed.mp inside)
  · exact fun label uri inside => told.uris label uri (declares_mem_closed.mp inside)
  · exact fun sound label uri inside =>
      told.permitted sound label uri (declares_mem_closed.mp inside)

/-- A document type stands before all that is told. -/
theorem Told.typed {d : Doctype} {text : List Char} (told : Told s)
    (ordered : Ordered (s.typed d)) (inType : s.mode = .doctype text)
    (made : Doctype.ofText s.standalone text.reverse = some d) : Told (s.typed d) := by
  have none : ∀ event, event ∉ (s.typed d).events := by
    intro event inside
    have events : (s.typed d).events = [] := told.ordered.events_of_doctype inType
    rw [events] at inside
    cases inside
  have textual : d.Textual := Doctype.textual_ofText (told.typeText text inType).reverse made
  refine ⟨ordered, nofun, nofun, textual, ?_, ?_, ?_⟩
  · exact fun tag inside => absurd inside (none _)
  · exact fun label uri inside => absurd inside (none _)
  · exact fun _ label uri inside => absurd inside (none _)

/-- A character keeps what has been told in order. -/
theorem transition_told (told : Told s) (character : isXmlChar c = true)
    (next : Transition s c s') : s'.mode = .broken ∨ Told s' := by
  rcases transition_ordered told.ordered next with broken | ordered
  · exact .inl broken
  · cases next with
    | breaks broken => exact .inl broken
    | keeps kept => exact .inr (told.keeps ordered character kept)
    | opens inTag made => exact .inr (told.opened ordered inTag made)
    | closes _ => exact .inr (told.closed ordered)
    | declares inType made => exact .inr (told.typed ordered inType made)

end

/-- What a whole document has told is in order. -/
theorem told_of_whole {cs : List Char} (whole : (Document.ofChars cs).wellFormed = true) :
    Told (ofChars cs) ∧ (ofChars cs).sound = true := by
  have start : Told {} :=
    ⟨ordered_start, nofun, nofun, ⟨nofun, nofun, nofun⟩, nofun, nofun, nofun⟩
  obtain ⟨-, -, sound⟩ := isWhole_iff.mp whole
  refine ⟨holds_of_whole start ?_ (fun c told => told.count c) whole, sound⟩
  exact fun told character next => transition_told told character next

end Scan

end PrivilegeCatalog.Xml
