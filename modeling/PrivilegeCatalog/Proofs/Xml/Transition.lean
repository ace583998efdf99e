import Mathlib.Tactic.SplitIfs
import PrivilegeCatalog.Xml.Scan

/-!
# What one character does to a scan

A character breaks the scan, or it leaves the elements and the events alone (`Keeps`), or it ends
a start tag, an end tag or a document type declaration. `transition_stepMode` says so once for all
modes, so that an invariant of a scan is shown for these five and not for each mode;
`holds_of_whole` then carries it through a document. `Keeps` also tells how a start tag and a
document type declaration are come into, since invariants speak of their texts.
-/

namespace PrivilegeCatalog.Xml.Scan

/-- A scan with the same elements and events, somewhere else in the markup. -/
structure Keeps (s : Scan) (c : Char) (s' : Scan) : Prop where
  stage : s'.stage = s.stage
  elements : s'.elements = s.elements
  events : s'.events = s.events
  doctype : s'.doctype = s.doctype
  sound : s'.sound = true → s.sound = true
  startTag : ∀ d', s'.mode = .startTag d' →
    (∃ d, s.mode = .startTag d ∧ d.step c = some d')
      ∨ (s.takesElement = true ∧ TagDraft.start? c = some d')
  doctypeText : ∀ text, s'.mode = .doctype text →
    (∃ soFar, s.mode = .doctype soFar ∧ text = c :: soFar) ∨ (text = [] ∧ s.stage = .prolog)

/-- A mode in which no tag is started and no document type declared. -/
def Mode.IsPassing : Mode → Prop
  | .startTag _ | .doctype _ => False
  | _ => True

theorem Keeps.of_mode {s : Scan} {c : Char} {mode : Mode} (passing : Mode.IsPassing mode) :
    Keeps s c { s with mode } where
  stage := rfl
  elements := rfl
  events := rfl
  doctype := rfl
  sound := id
  startTag := by
    intro d' same
    subst same
    exact passing.elim
  doctypeText := by
    intro text same
    subst same
    exact passing.elim

/-- The scan after a start tag has been read as an element. -/
def opened (s : Scan) (draft : TagDraft) (e : Element) : Scan :=
  let declared := (e.declarations.map fun b => Event.declares b.1 b.2).reverse
  let stage := if s.stage == .prolog then .content else s.stage
  { s with
    mode := .text 0
    sound := s.sound && e.sound
    allowance := e.allowance
    stage := if draft.isEmptyElement then stageAfter stage s.elements else stage
    elements := if draft.isEmptyElement then s.elements else ⟨draft.word, e.scope⟩ :: s.elements
    events := (if draft.isEmptyElement then [.ends] else [])
      ++ .starts e.tag :: (declared ++ s.events) }

/-- The scan after the innermost element has ended. -/
def closed (s : Scan) (left : List OpenElement) : Scan :=
  { s with
    mode := .text 0
    stage := stageAfter s.stage left
    elements := left
    events := .ends :: s.events }

/-- The scan after a document type has been read. -/
def typed (s : Scan) (d : Doctype) : Scan :=
  { s.toText with doctype := some d, sound := s.sound && d.sound }

/-- What a character can do. -/
inductive Transition (s : Scan) (c : Char) : Scan → Prop
  | breaks {s' : Scan} (broken : s'.mode = .broken) : Transition s c s'
  | keeps {s' : Scan} (kept : Keeps s c s') : Transition s c s'
  | opens {draft : TagDraft} {e : Element} (inTag : s.mode = .startTag draft)
      (made : Element.ofDraft s.type s.standalone s.scope s.line s.allowance draft = some e) :
      Transition s c (s.opened draft e)
  | closes {e : OpenElement} {left : List OpenElement} (innermost : s.elements = e :: left) :
      Transition s c (s.closed left)
  | declares {d : Doctype} {text : List Char} (inType : s.mode = .doctype text)
      (made : Doctype.ofText s.standalone text.reverse = some d) : Transition s c (s.typed d)

variable {resolve : Refer} {s : Scan} {c : Char}

theorem Transition.fail : Transition s c s.fail := .breaks rfl

/-- A character that only leads to a mode of another kind of markup. -/
theorem Transition.passes {mode : Mode} (passing : Mode.IsPassing mode) :
    Transition s c { s with mode } := .keeps (.of_mode passing)

theorem Transition.toText : Transition s c s.toText := .passes trivial

/-- A character that leads back to text and may tell more about the document. -/
theorem Transition.toldText {standalone sound : Bool} {allowance : Nat}
    (kept : sound = true → s.sound = true) :
    Transition s c { s.toText with standalone, sound, allowance } :=
  .keeps ⟨rfl, rfl, rfl, rfl, kept, nofun, nofun⟩

/-! ## Each mode -/

theorem transition_stepText {closers : Nat} (mode : s.mode = .text closers) :
    Transition s c (s.stepText closers c) := by
  unfold stepText
  split_ifs
  · exact .passes trivial
  · exact .passes trivial
  · exact .passes trivial
  · exact .fail
  · exact .toText
  · have same : s = { s with mode := .text closers } := by rw [← mode]
    rw [same]
    exact .passes trivial
  · exact .fail

theorem transition_stepMarkup {first : Bool} : Transition s c (s.stepMarkup first c) := by
  unfold stepMarkup
  split_ifs with _ _ _ takes
  · exact .passes trivial
  · exact .passes trivial
  · exact .passes trivial
  · cases begun : TagDraft.start? c with
    | none => exact .fail
    | some draft =>
      refine .keeps ⟨rfl, rfl, rfl, rfl, id, ?_, ?_⟩
      · intro d' mode
        cases mode
        exact .inr ⟨takes, begun⟩
      · intro text mode
        cases mode
  · exact .fail

theorem transition_openBang {soFar : List Char} : Transition s c (s.openBang soFar) := by
  rw [openBang]
  split_ifs with _ _ _ _ prolog
  · exact .passes trivial
  · exact .passes trivial
  · exact .fail
  · refine .keeps ⟨rfl, rfl, rfl, rfl, id, ?_, ?_⟩
    · intro d' mode
      cases mode
    · intro text mode
      cases mode
      exact .inr ⟨rfl, eq_of_beq (Bool.and_eq_true_iff.mp prolog).1⟩
  · exact .fail
  · exact .passes trivial
  · exact .fail

/-- A start tag that is read as an element is opened, unless it stands too deep. -/
theorem startElement_eq {draft : TagDraft} {e : Element}
    (made : Element.ofDraft s.type s.standalone s.scope s.line s.allowance draft = some e)
    (shallow : s.elements.length < elementDepth) : s.startElement draft = s.opened draft e := by
  rw [startElement, made]
  dsimp only
  rw [if_neg (Nat.not_le.mpr shallow), opened]
  cases draft.isEmptyElement <;> rfl

theorem startElement_cases {draft : TagDraft} :
    (s.startElement draft).mode = .broken ∨
      ∃ e, Element.ofDraft s.type s.standalone s.scope s.line s.allowance draft = some e
        ∧ s.startElement draft = s.opened draft e := by
  cases made : Element.ofDraft s.type s.standalone s.scope s.line s.allowance draft with
  | none =>
    rw [startElement, made]
    exact .inl rfl
  | some e =>
    rcases Nat.lt_or_ge s.elements.length elementDepth with shallow | deep
    · exact .inr ⟨e, rfl, startElement_eq made shallow⟩
    · rw [startElement, made]
      dsimp only
      rw [if_pos deep]
      exact .inl rfl

theorem transition_stepStartTag {draft : TagDraft} (mode : s.mode = .startTag draft) :
    Transition s c (s.stepStartTag draft c) := by
  unfold stepStartTag
  split_ifs
  · rcases @startElement_cases s draft with broken | ⟨e, made, same⟩
    · exact .breaks broken
    · rw [same]
      exact .opens mode made
  · cases next : draft.step c with
    | none => exact .fail
    | some draft' =>
      refine .keeps ⟨rfl, rfl, rfl, rfl, id, ?_, ?_⟩
      · intro d' mode'
        cases mode'
        exact .inl ⟨draft, mode, next⟩
      · intro text mode'
        cases mode'

theorem transition_stepEndTag {draft : EndDraft} : Transition s c (s.stepEndTag draft c) := by
  unfold stepEndTag
  split_ifs
  · unfold endElement
    cases elements : s.elements with
    | nil => exact .fail
    | cons e left =>
      dsimp only
      split_ifs
      · exact .closes elements
      · exact .fail
  · cases draft.step c with
    | none => exact .fail
    | some draft' => exact .passes trivial

theorem transition_stepComment {closers : Nat} : Transition s c (s.stepComment closers c) := by
  unfold stepComment
  split_ifs
  · exact .toText
  · exact .fail
  all_goals exact .passes trivial

theorem transition_stepCharacterData {closers : Nat} :
    Transition s c (s.stepCharacterData closers c) := by
  unfold stepCharacterData
  split_ifs
  · exact .toText
  all_goals exact .passes trivial

theorem transition_instruct {first : Bool} {text : List Char} :
    Transition s c (s.instruct first text) := by
  unfold instruct
  rcases Instruction.ofText first text with _ | d | sound
  · exact .fail
  · exact .toldText id
  · exact .toldText fun both => (Bool.and_eq_true_iff.mp both).1

theorem transition_stepInstruction {first : Bool} {soFar : List Char} :
    Transition s c (s.stepInstruction first soFar c) := by
  unfold stepInstruction
  split
  · exact transition_instruct
  · exact .passes trivial

theorem transition_stepDoctype {soFar : List Char} (mode : s.mode = .doctype soFar) :
    Transition s c (s.stepDoctype soFar c) := by
  have more : Keeps s c { s with mode := .doctype (c :: soFar) } := by
    refine ⟨rfl, rfl, rfl, rfl, id, nofun, ?_⟩
    intro text mode'
    cases mode'
    exact .inl ⟨soFar, mode, rfl⟩
  unfold stepDoctype
  dsimp only
  split_ifs
  · cases made : Doctype.ofText s.standalone soFar.reverse with
    | none => exact .keeps more
    | some d => exact .declares mode made
  · exact .keeps more

theorem transition_refer {body : List Char} : Transition s c (s.refer resolve body) := by
  unfold refer
  rcases Reference.ofText body with _ | _ | name
  · exact .fail
  · exact .toText
  · dsimp only
    split_ifs
    · exact .toText
    · rcases resolve s.type s.standalone s.allowance name with _ | ⟨allowance, sound⟩
      · exact .fail
      · exact .toldText fun both => (Bool.and_eq_true_iff.mp both).1

theorem transition_stepReference {soFar : List Char} :
    Transition s c (s.stepReference resolve soFar c) := by
  unfold stepReference
  split_ifs
  · exact transition_refer
  · exact .passes trivial

/-! ## All modes -/

/-- A character does one of five things. -/
theorem transition_stepMode : Transition s c (s.stepMode resolve c) := by
  unfold stepMode
  cases mode : s.mode with
  | text closers => exact transition_stepText mode
  | markup first => exact transition_stepMarkup
  | bang soFar => exact transition_openBang
  | startTag draft => exact transition_stepStartTag mode
  | endTag draft => exact transition_stepEndTag
  | comment closers => exact transition_stepComment
  | characterData closers => exact transition_stepCharacterData
  | instruction first soFar => exact transition_stepInstruction
  | doctype soFar => exact transition_stepDoctype mode
  | reference soFar => exact transition_stepReference
  | broken => exact .breaks mode

/-! ## Runs -/

theorem step_of_broken (broken : s.mode = .broken) : (s.step resolve c).mode = .broken := by
  rw [step]
  split
  · rw [stepMode, broken]
    exact broken
  · rfl

/-- What each character keeps that does not break the scan holds after any number of them. -/
theorem run_induction {P : Scan → Prop}
    (next : ∀ s c s', P s → isXmlChar c = true → Transition s c s' →
      s'.mode = .broken ∨ P (s'.count c))
    (cs : List Char) (init : s.mode = .broken ∨ P s) :
    (s.run resolve cs).mode = .broken ∨ P (s.run resolve cs) := by
  induction cs generalizing s with
  | nil => exact init
  | cons c rest ih =>
    apply ih
    rcases init with broken | holds
    · exact .inl (step_of_broken broken)
    · rw [step]
      split
      case isTrue character => exact next s c _ holds character transition_stepMode
      case isFalse => exact .inl rfl

/-- A scan of a whole document is at rest after the root and sound. -/
theorem isWhole_iff : s.isWhole = true ↔
    (∃ closers, s.mode = .text closers) ∧ s.stage = .epilog ∧ s.sound = true := by
  rw [isWhole, Bool.and_eq_true, Bool.and_eq_true, beq_iff_eq, isAtRest, and_assoc]
  refine and_congr_left fun _ => ?_
  cases s.mode <;> simp

/-- What holds before a document and is kept by each character holds of the scan of a whole
document, which no character breaks. -/
theorem holds_of_whole {P : Scan → Prop} (start : P {})
    (next : ∀ {s c s'}, P s → isXmlChar c = true → Transition s c s' → s'.mode = .broken ∨ P s')
    (counted : ∀ {s} c, P s → P (s.count c)) {cs : List Char}
    (whole : (Document.ofChars cs).wellFormed = true) : P (ofChars cs) := by
  have held : (ofChars cs).mode = .broken ∨ P (ofChars cs) := by
    refine run_induction (fun s c s' holds character stepped => ?_) cs (.inr start)
    exact (next holds character stepped).imp_right (counted c)
  obtain ⟨⟨closers, rest⟩, -, -⟩ := isWhole_iff.mp whole
  rcases held with broken | holds
  · rw [rest] at broken
    cases broken
  · exact holds

end PrivilegeCatalog.Xml.Scan
