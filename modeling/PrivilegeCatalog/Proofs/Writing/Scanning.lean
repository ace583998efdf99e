import PrivilegeCatalog.Proofs.Writing.StartTag
import PrivilegeCatalog.Proofs.Xml.Shape
import PrivilegeCatalog.Writing

/-!
# Written text is passed over

Between the tags of a written document there are line breaks only, with indentation that is
escaped as text. A scan goes through them without telling anything (`passes_lineBreak`): only its
line and the number of closing brackets it has seen change, and both are left open (`Passes`).
-/

namespace PrivilegeCatalog.Xml.Scan

open Writing (lineBreak)

variable {resolve : Refer} {s s' : Scan} {c : Char}

/-! ## Running -/

theorem run_nil : s.run resolve [] = s := rfl

theorem run_cons (rest : List Char) :
    s.run resolve (c :: rest) = (s.step resolve c).run resolve rest :=
  rfl

theorem run_append (first second : List Char) :
    s.run resolve (first ++ second) = (s.run resolve first).run resolve second :=
  List.foldl_append

theorem step_eq (character : isXmlChar c = true) :
    s.step resolve c = (s.stepMode resolve c).count c :=
  if_pos character

/-- Within the document, a character that ends no line is not counted. -/
theorem count_of_ne (begun : s.stage ≠ .start) (noFeed : c ≠ '\n') : s.count c = s := by
  have stage : (s.stage == .start) = false := by simpa using begun
  have feed : (c == '\n') = false := by simpa using noFeed
  rw [count, stage, feed]
  rfl

/-- Characters that are all held in one mode are held there in reverse. -/
theorem run_held {mode : List Char → Mode} {cs soFar : List Char}
    (next : ∀ c ∈ cs, ∀ soFar, ({ s with mode := mode soFar } : Scan).step resolve c
      = { s with mode := mode (c :: soFar) }) :
    ({ s with mode := mode soFar } : Scan).run resolve cs
      = { s with mode := mode (cs.reverse ++ soFar) } := by
  induction cs generalizing soFar with
  | nil => rfl
  | cons c rest ih =>
    obtain ⟨first, others⟩ := List.forall_mem_cons.mp next
    rw [run_cons, first soFar, ih others, List.reverse_cons, List.append_assoc,
      List.singleton_append]

/-! ## Text -/

/-- A scan that has gone through text. -/
def Passes (s s' : Scan) : Prop := ∃ closers line, s' = { s with mode := .text closers, line }

theorem Passes.trans {t : Scan} (first : Passes s s') (second : Passes s' t) : Passes s t := by
  obtain ⟨_, _, same⟩ := first
  obtain ⟨closers, line, same'⟩ := second
  exact ⟨closers, line, by rw [same', same]⟩

/-- A place in text inside an element. -/
structure InText (s : Scan) : Prop where
  mode : ∃ closers, s.mode = .text closers
  stage : s.stage = .content

theorem Passes.inText (passes : Passes s s') (inText : InText s) : InText s' := by
  obtain ⟨closers, line, same⟩ := passes
  subst same
  exact ⟨⟨closers, rfl⟩, inText.stage⟩

theorem InText.refl (inText : InText s) : Passes s s := by
  obtain ⟨closers, mode⟩ := inText.mode
  refine ⟨closers, s.line, ?_⟩
  rw [← mode]

theorem InText.inContent (inText : InText s) : s.inContent = true := by
  rw [Scan.inContent, inText.stage]
  rfl

theorem passes_count {closers : Nat} (stage : s.stage = .content) :
    Passes s (({ s with mode := .text closers } : Scan).count c) := by
  refine ⟨closers, if c == '\n' then s.line + 1 else s.line, ?_⟩
  rw [count]
  simp only [stage]
  rfl

theorem passes_bare (inText : InText s) (character : isXmlChar c = true) (bare : BareInText c) :
    Passes s (s.step resolve c) := by
  obtain ⟨closers, mode⟩ := inText.mode
  obtain ⟨amp, lt, gt, -⟩ := bare
  rw [step_eq character, stepMode, mode]
  dsimp only
  rw [stepText, if_neg (by simpa using lt), if_pos inText.inContent, if_neg (by simpa using amp)]
  split
  · exact passes_count inText.stage
  · rw [if_neg (by simp [gt])]
    exact passes_count inText.stage

/-- The body of a reference is held up to its semicolon. -/
theorem run_reference {body : List Char} (stage : s.stage = .content)
    (chars : ∀ d ∈ body, TagChar d) (closed : ';' ∉ body) :
    ({ s with mode := .reference [] } : Scan).run resolve body
      = { s with mode := .reference body.reverse } := by
  have held := @run_held resolve s .reference body [] fun d inside soFar => ?_
  · rwa [List.append_nil] at held
  · obtain ⟨character, -, noFeed⟩ := chars d inside
    have other : d ≠ ';' := fun same => closed (same ▸ inside)
    rw [step_eq character, stepMode]
    dsimp only
    rw [stepReference, if_neg (by simpa using other)]
    exact count_of_ne (by simp [stage]) noFeed

/-- A reference that is known in every document is passed over. -/
theorem refer_of_refersTo {body : List Char} (means : RefersTo body c) :
    s.refer resolve body = s.toText := by
  rcases means with character | ⟨name, entity, known⟩
  · rw [refer, character]
  · rw [refer, entity]
    dsimp only
    rw [known, Option.isSome_some, if_pos rfl]

theorem passes_reference (inText : InText s) {body : List Char} (isBody : IsBody body)
    (means : RefersTo body c) : Passes s (s.run resolve ('&' :: (body ++ [';']))) := by
  obtain ⟨closers, mode⟩ := inText.mode
  have chars : ∀ d ∈ body, TagChar d := fun d inside => (isBody.chars d inside).1.1
  have opened : s.step resolve '&' = { s with mode := .reference [] } := by
    rw [step_eq (by decide), stepMode, mode]
    dsimp only
    rw [stepText, if_neg (by decide), if_pos inText.inContent, if_pos (beq_self_eq_true '&')]
    exact count_of_ne (by simp [inText.stage]) (by decide)
  rw [run_cons, opened, run_append, run_reference inText.stage chars isBody.closed,
    run_cons, run_nil, step_eq (by decide), stepMode]
  dsimp only
  rw [stepReference, if_pos (beq_self_eq_true ';'), List.reverse_reverse, refer_of_refersTo means]
  exact passes_count inText.stage

/-- Escaped text is passed over. -/
theorem passes_escapeText (inText : InText s) {cs : List Char} (text : XmlChars cs) :
    Passes s (s.run resolve (escapeText cs)) := by
  induction cs generalizing s with
  | nil => exact inText.refl
  | cons c rest ih =>
    have character := text c (List.mem_cons_self ..)
    have others : XmlChars rest := fun d inside => text d (List.mem_cons_of_mem _ inside)
    have first : Passes s (s.run resolve (escapeTextChar c)) := by
      have escaped := escaped_text c
      generalize escapeTextChar c = written at escaped
      cases escaped with
      | itself bare => exact passes_bare inText character bare
      | reference isBody means => exact passes_reference inText isBody means
    rw [escapeText, List.flatMap_cons, run_append]
    exact first.trans (ih (first.inText inText) others)

/-- A line break is passed over. -/
theorem passes_lineBreak (inText : InText s) {indent : String} (text : XmlChars indent.toList)
    (depth : Nat) : Passes s (s.run resolve (lineBreak indent depth)) := by
  have units : ∀ t, InText t →
      Passes t (t.run resolve (List.replicate depth (escapeText indent.toList)).flatten) := by
    induction depth with
    | zero => exact fun t inText => inText.refl
    | succ depth ih =>
      intro t inText
      have first : Passes t (t.run resolve (escapeText indent.toList)) :=
        passes_escapeText inText text
      rw [List.replicate_succ, List.flatten_cons, run_append]
      exact first.trans (ih _ (first.inText inText))
  unfold lineBreak
  split
  · exact inText.refl
  · have feed : Passes s (s.step resolve '\n') :=
      passes_bare inText (by decide) ⟨by decide, by decide, by decide, by decide⟩
    exact feed.trans (units _ (feed.inText inText))

end PrivilegeCatalog.Xml.Scan
