import PrivilegeCatalog.Proofs.Xml.Blanks

/-!
# What has been told stays told

A scan only adds to its events. So what the beginning of a document tells is the beginning of what
the whole document tells, whatever follows (`events_prefix_of_prefix`), and an empty document
tells nothing.
-/

namespace PrivilegeCatalog.Xml

namespace Scan

variable {resolve : Refer} {s : Scan} {c : Char}

/-! ## Each mode -/

theorem events_stepText {closers : Nat} : (s.stepText closers c).events = s.events := by
  unfold stepText
  split_ifs <;> rfl

theorem events_stepMarkup {first : Bool} : (s.stepMarkup first c).events = s.events := by
  unfold stepMarkup
  split_ifs
  · rfl
  · rfl
  · rfl
  · cases TagDraft.start? c <;> rfl
  · rfl

theorem events_openBang {soFar : List Char} : (s.openBang soFar).events = s.events := by
  rw [openBang]
  split_ifs <;> rfl

theorem suffix_startElement {draft : TagDraft} : s.events <:+ (s.startElement draft).events := by
  cases made : Element.ofDraft s.type s.standalone s.scope s.line s.allowance draft with
  | none =>
    rw [startElement, made]
    exact List.suffix_rfl
  | some e =>
    have declared : s.events
        <:+ (e.declarations.map fun b => Event.declares b.1 b.2).reverse ++ s.events :=
      List.suffix_append _ _
    rcases Nat.lt_or_ge s.elements.length elementDepth with shallow | deep
    · rw [startElement_eq made shallow, opened]
      exact (declared.trans (List.suffix_cons _ _)).trans (List.suffix_append _ _)
    · rw [startElement, made]
      dsimp only
      rw [if_pos deep]
      exact declared

theorem suffix_stepStartTag {draft : TagDraft} :
    s.events <:+ (s.stepStartTag draft c).events := by
  unfold stepStartTag
  split_ifs
  · exact suffix_startElement
  · cases draft.step c <;> exact List.suffix_rfl

theorem suffix_endElement {draft : EndDraft} : s.events <:+ (s.endElement draft).events := by
  unfold endElement
  cases s.elements with
  | nil => exact List.suffix_rfl
  | cons e left =>
    dsimp only
    split_ifs
    · exact List.suffix_cons _ _
    · exact List.suffix_rfl

theorem suffix_stepEndTag {draft : EndDraft} : s.events <:+ (s.stepEndTag draft c).events := by
  unfold stepEndTag
  split_ifs
  · exact suffix_endElement
  · cases draft.step c <;> exact List.suffix_rfl

theorem events_stepComment {closers : Nat} : (s.stepComment closers c).events = s.events := by
  unfold stepComment
  split_ifs <;> rfl

theorem events_stepCharacterData {closers : Nat} :
    (s.stepCharacterData closers c).events = s.events := by
  unfold stepCharacterData
  split_ifs <;> rfl

theorem events_instruct {first : Bool} {text : List Char} :
    (s.instruct first text).events = s.events := by
  unfold instruct
  rcases Instruction.ofText first text with _ | d | sound <;> rfl

theorem events_stepInstruction {first : Bool} {soFar : List Char} :
    (s.stepInstruction first soFar c).events = s.events := by
  unfold stepInstruction
  split
  · exact events_instruct
  · rfl

theorem events_stepDoctype {soFar : List Char} : (s.stepDoctype soFar c).events = s.events := by
  unfold stepDoctype
  dsimp only
  split_ifs
  · cases Doctype.ofText s.standalone soFar.reverse <;> rfl
  · rfl

theorem events_refer {body : List Char} : (s.refer resolve body).events = s.events := by
  unfold refer
  rcases Reference.ofText body with _ | _ | name
  · rfl
  · rfl
  · dsimp only
    split_ifs
    · rfl
    · rcases resolve s.type s.standalone s.allowance name with _ | ⟨allowance, sound⟩ <;> rfl

theorem events_stepReference {soFar : List Char} :
    (s.stepReference resolve soFar c).events = s.events := by
  unfold stepReference
  split_ifs
  · exact events_refer
  · rfl

/-! ## All modes -/

theorem suffix_of_same {s' : Scan} (same : s'.events = s.events) : s.events <:+ s'.events :=
  same ▸ List.suffix_rfl

/-- Only tags tell anything, and nothing that was told is taken back. -/
theorem suffix_stepMode : s.events <:+ (s.stepMode resolve c).events := by
  unfold stepMode
  cases s.mode with
  | text closers => exact suffix_of_same events_stepText
  | markup first => exact suffix_of_same events_stepMarkup
  | bang soFar => exact suffix_of_same events_openBang
  | startTag draft => exact suffix_stepStartTag
  | endTag draft => exact suffix_stepEndTag
  | comment closers => exact suffix_of_same events_stepComment
  | characterData closers => exact suffix_of_same events_stepCharacterData
  | instruction first soFar => exact suffix_of_same events_stepInstruction
  | doctype soFar => exact suffix_of_same events_stepDoctype
  | reference soFar => exact suffix_of_same events_stepReference
  | broken => exact List.suffix_rfl

theorem suffix_step : s.events <:+ (s.step resolve c).events := by
  rw [step]
  split
  · exact suffix_stepMode
  · exact List.suffix_rfl

theorem suffix_run (cs : List Char) : s.events <:+ (s.run resolve cs).events := by
  induction cs generalizing s with
  | nil => exact List.suffix_rfl
  | cons c rest ih => exact suffix_step.trans ih

/-- What the beginning of a document tells is the beginning of what all of it tells. -/
theorem events_prefix_of_prefix {beginning cs : List Char} (begins : beginning <+: cs) :
    (Document.ofChars beginning).events <+: (Document.ofChars cs).events := by
  obtain ⟨rest, rfl⟩ := begins
  have told : (ofChars beginning).events <:+ (ofChars (beginning ++ rest)).events := by
    rw [ofChars, ofChars, run, run, List.foldl_append]
    exact suffix_run rest
  exact List.reverse_prefix.mpr told

/-! ## Empty documents -/

/-- Between pieces of markup nothing is told, nor after a fault of form. -/
theorem events_step_of_text (mode : s.mode = .broken ∨ ∃ closers, s.mode = .text closers) :
    (s.step resolve c).events = s.events := by
  rw [step]
  split
  · rw [stepMode]
    rcases mode with broken | ⟨closers, text⟩
    · rw [broken]
      rfl
    · rw [text]
      exact events_stepText
  · rfl

theorem events_run_fillers {cs : List Char}
    (fillers : ∀ c ∈ cs, Content.isFiller c.toNat = true)
    (before : s.mode = .broken ∨
      (∃ closers, s.mode = .text closers) ∧ (s.stage = .start ∨ s.stage = .prolog)) :
    (s.run resolve cs).events = s.events := by
  induction cs generalizing s with
  | nil => rfl
  | cons c rest ih =>
    obtain ⟨filler, others⟩ := List.forall_mem_cons.mp fillers
    have told := @events_step_of_text resolve s c (before.imp_right And.left)
    refine (ih others ?_).trans told
    rcases before with broken | ⟨⟨closers, mode⟩, stage⟩
    · exact .inl (step_of_broken broken)
    · refine (step_filler mode stage filler).imp_right ?_
      exact fun ⟨mode, stage⟩ => ⟨⟨closers, mode⟩, .inr stage⟩

end Scan

/-- A document that counts as empty tells nothing. -/
theorem Content.events_of_isEmpty {content : Content} (empty : content.isEmpty = true) :
    content.document.events = [] := by
  have told : (Scan.ofChars content.decoded.chars).events = [] :=
    Scan.events_run_fillers (decoded_fillers empty) (.inr ⟨⟨0, rfl⟩, .inl rfl⟩)
  exact congrArg List.reverse told

end PrivilegeCatalog.Xml
