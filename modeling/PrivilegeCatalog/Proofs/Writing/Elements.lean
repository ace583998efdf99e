import Mathlib.Data.List.Forall2
import PrivilegeCatalog.Proofs.Writing.Scanning

/-!
# Written elements are scanned as trees

A scan that is `Ready` for an element goes through the text of a written element and then has told
of one node (`Reads`). `reads_element` shows so for an element from what its start tag makes
(`Opening`) and from the texts of its children. On which lines the tags stand does not matter, so
lines are left open.
-/

namespace PrivilegeCatalog.Xml.Scan

open Writing (lineBreak element)

variable {resolve : Refer} {s : Scan} {depth : Nat} {name : String}
  {attributes : List (List Char × List Char)} {declared plain : List (String × String)}
  {sound : Bool}

/-! ## Places for elements -/

/-- A scan of a document without a type that may go on with an element at the given depth, around
which no default namespace is declared. -/
structure Ready (depth : Nat) (s : Scan) : Prop where
  mode : ∃ closers, s.mode = .text closers
  stage : 0 < depth ∧ s.stage = .content ∨ depth = 0 ∧ (s.stage = .start ∨ s.stage = .prolog)
  depth : s.elements.length = depth
  scope : s.scope.lookup "" = none
  doctype : s.doctype = none
  standalone : s.standalone = false

/-- The scan after an element. -/
def after (s : Scan) (node : Node) (line : Nat) (sound : Bool) : Scan :=
  { s with
    mode := .text 0
    stage := if s.stage == .content then .content else .epilog
    line
    events := node.events.reverse ++ s.events
    sound := s.sound && sound }

/-- A text is scanned as an element with the given property. -/
def Reads (depth : Nat) (text : List Char) (sound : Bool) (P : Node → Prop) : Prop :=
  ∀ (resolve : Refer) {s : Scan}, Ready depth s →
    ∃ node line, P node ∧ s.run resolve text = s.after node line sound

/-- What a start tag makes of itself at a place without a default namespace. -/
def Opening (name : String) (attributes : List (List Char × List Char))
    (declared plain : List (String × String)) (sound : Bool) : Prop :=
  ∀ {scope : Scope} {d : TagDraft} (line allowance : Nat), scope.lookup "" = none →
    d.word = name.toList → d.attributes.reverse = attributes →
      ∃ inner : Scope, inner.lookup "" = none ∧
        Element.ofDraft {} false scope line allowance d
          = some ⟨declared, ⟨"", name, line, plain⟩, inner, sound, allowance⟩

/-! ## Start tags -/

theorem count_ne_start (ready : Ready depth s) : (s.count '<').stage ≠ .start := by
  rw [count]
  rcases ready.stage with ⟨-, stage⟩ | ⟨-, stage | stage⟩ <;> simp [stage]

theorem takesElement_count (ready : Ready depth s) : (s.count '<').takesElement = true := by
  rw [takesElement, count]
  rcases ready.stage with ⟨-, stage⟩ | ⟨-, stage | stage⟩ <;> rw [stage] <;> rfl

theorem tagChar_of_isWordChar {c : Char} (word : isWordChar c = true) : TagChar c :=
  ⟨isXmlChar_of_isWordChar word, ne_of_isWordChar word (by decide),
    ne_of_isWordChar word (by decide)⟩

theorem tagChar_of_attributesText (writable : Writable attributes) :
    ∀ c ∈ attributesText attributes, TagChar c := by
  intro c inside
  obtain ⟨a, inAll, inside⟩ := List.mem_flatMap.mp inside
  obtain ⟨word, text⟩ := writable a inAll
  simp only [attributeWritten, List.mem_cons, List.mem_append, List.not_mem_nil,
    or_false] at inside
  rcases inside with same | inside | same | same | inside | same
  · subst same
    decide
  · exact tagChar_of_isWordChar (TagDraft.isWordChar_of_isWord word c inside)
  · subst same
    decide
  · subst same
    decide
  · exact (text c inside).1
  · subst same
    decide

/-- The characters of a start tag are held by its draft. -/
theorem run_startTag {d d' : TagDraft} {cs : List Char} (mode : s.mode = .startTag d)
    (filled : d.fill cs = some d') (chars : ∀ c ∈ cs, TagChar c) (begun : s.stage ≠ .start) :
    s.run resolve cs = { s with mode := .startTag d' } := by
  induction cs generalizing s d with
  | nil =>
    cases filled
    rw [run_nil, ← mode]
  | cons c rest ih =>
    obtain ⟨character, noClose, noFeed⟩ := chars c (List.mem_cons_self ..)
    rw [TagDraft.fill_cons] at filled
    obtain ⟨next, stepped, filled⟩ := Option.bind_eq_some_iff.mp filled
    have first : s.step resolve c = { s with mode := .startTag next } := by
      rw [step_eq character, stepMode, mode]
      dsimp only
      rw [stepStartTag, if_neg (by simp [noClose]), stepped]
      exact count_of_ne begun noFeed
    have later := ih (s := { s with mode := .startTag next }) rfl filled
      (fun d inside => chars d (List.mem_cons_of_mem _ inside)) begun
    rw [run_cons, first, later]

/-- A scan has gone into a start tag up to its end. -/
theorem run_opening (resolve : Refer) (ready : Ready depth s) (word : isWord name.toList = true)
    (writable : Writable attributes) :
    ∃ d : TagDraft, d.Holds name.toList attributes ∧
      s.run resolve ('<' :: (name.toList ++ attributesText attributes))
        = { s.count '<' with mode := .startTag d } := by
  obtain ⟨closers, mode⟩ := ready.mode
  generalize name.toList = cs at word
  rcases cs with _ | ⟨c, rest⟩
  · cases word
  · obtain ⟨d, d', begins, filled, holds⟩ := TagDraft.fill_tag word writable
    have wordChars := TagDraft.isWordChar_of_isWord word
    have first : isWordChar c = true := wordChars c (List.mem_cons_self ..)
    have begun := count_ne_start ready
    have takes := takesElement_count ready
    have opened : s.step resolve '<'
        = { s.count '<' with mode := .markup (s.stage == .start) } := by
      rw [step_eq (by decide), stepMode, mode]
      dsimp only
      rw [stepText, if_pos (beq_self_eq_true '<')]
      rfl
    generalize s.count '<' = t at begun takes opened
    have takes' : ({ t with mode := .markup (s.stage == .start) } : Scan).takesElement = true :=
      takes
    have named : ({ t with mode := .markup (s.stage == .start) } : Scan).step resolve c
        = { t with mode := .startTag d } := by
      rw [step_eq (isXmlChar_of_isWordChar first), stepMode]
      dsimp only
      rw [stepMarkup, if_neg (by simpa using ne_of_isWordChar first (by decide)),
        if_neg (by simpa using ne_of_isWordChar first (by decide)),
        if_neg (by simpa using ne_of_isWordChar first (by decide)), if_pos takes', begins]
      exact count_of_ne begun (ne_of_isWordChar first (by decide))
    refine ⟨d', holds, ?_⟩
    rw [List.cons_append, run_cons, opened, run_cons, named]
    refine run_startTag rfl filled ?_ begun
    intro e inside
    rcases List.mem_append.mp inside with inside | inside
    · exact tagChar_of_isWordChar (wordChars e (List.mem_cons_of_mem _ inside))
    · exact tagChar_of_attributesText writable e inside

/-! ## The ends of tags -/

/-- The scan after a start tag has ended. -/
theorem step_close {d : TagDraft} {e : Element} (canClose : d.canClose = true)
    (made : Element.ofDraft s.type s.standalone s.scope s.line s.allowance d = some e)
    (shallow : s.elements.length < elementDepth) (begun : s.stage ≠ .start) :
    ({ s with mode := .startTag d } : Scan).step resolve '>' = s.opened d e := by
  have made' : ({ s with mode := .startTag d } : Scan).startElement d = s.opened d e :=
    startElement_eq made shallow
  have stage : (s.opened d e).stage ≠ .start := by
    rw [opened]
    cases place : s.stage with
    | start => exact (begun place).elim
    | _ => cases d.isEmptyElement <;> cases s.elements <;> simp [stageAfter]
  rw [step_eq (by decide), stepMode]
  dsimp only
  rw [stepStartTag, canClose, if_pos (show ('>' == '>' && true) = true from rfl), made']
  exact count_of_ne stage (by decide)

/-- The name of an end tag is held. -/
theorem run_endTag {cs : List Char} (begun : s.stage ≠ .start) (word : WordChars cs) :
    ({ s with mode := .endTag ⟨[], false⟩ } : Scan).run resolve cs
      = { s with mode := .endTag ⟨cs.reverse, false⟩ } := by
  have held := @run_held resolve s (fun soFar => .endTag ⟨soFar, false⟩) cs [] ?_
  · rwa [List.append_nil] at held
  · intro c inside soFar
    have first : isWordChar c = true := word c inside
    have stepped : EndDraft.step ⟨soFar, false⟩ c = some ⟨c :: soFar, false⟩ := by
      rw [EndDraft.step, isXmlBlank_of_isWordChar first, if_neg Bool.false_ne_true, first]
      rfl
    rw [step_eq (isXmlChar_of_isWordChar first), stepMode]
    dsimp only
    rw [stepEndTag, if_neg (by simpa using ne_of_isWordChar first (by decide)), stepped]
    exact count_of_ne begun (ne_of_isWordChar first (by decide))

/-- The end tag of the innermost element closes it. -/
theorem run_closing (inText : InText s) {word : List Char} {inner : Scope}
    {left : List OpenElement} (innermost : s.elements = ⟨word, inner⟩ :: left)
    (chars : WordChars word) : s.run resolve ('<' :: '/' :: (word ++ ['>'])) = s.closed left := by
  obtain ⟨closers, mode⟩ := inText.mode
  have begun : s.stage ≠ .start := by simp [inText.stage]
  have opened : s.step resolve '<' = { s with mode := .markup (s.stage == .start) } := by
    rw [step_eq (by decide), stepMode, mode]
    dsimp only
    rw [stepText, if_pos (beq_self_eq_true '<')]
    exact count_of_ne begun (by decide)
  have slash : ({ s with mode := .markup (s.stage == .start) } : Scan).step resolve '/'
      = { s with mode := .endTag ⟨[], false⟩ } := by
    rw [step_eq (by decide), stepMode]
    dsimp only
    rw [stepMarkup, if_neg (by decide), if_neg (by decide), if_pos (beq_self_eq_true '/')]
    exact count_of_ne begun (by decide)
  have stage : (s.closed left).stage ≠ .start := by
    rw [closed, inText.stage]
    cases left <;> simp [stageAfter]
  have same : (word == EndDraft.word ⟨word.reverse, false⟩) = true := by
    rw [EndDraft.word, List.reverse_reverse]
    exact beq_self_eq_true word
  rw [run_cons, opened, run_cons, slash, run_append, run_endTag begun chars, run_cons, run_nil,
    step_eq (by decide), stepMode]
  dsimp only
  rw [stepEndTag, if_pos (beq_self_eq_true '>'), endElement]
  dsimp only
  rw [innermost]
  dsimp only
  rw [same, if_pos rfl]
  exact count_of_ne stage (by decide)

/-- An end tag on a line of its own closes the innermost element. -/
theorem run_ending (resolve : Refer) (inText : InText s) {word : List Char} {inner : Scope}
    {left : List OpenElement} (innermost : s.elements = ⟨word, inner⟩ :: left)
    (chars : WordChars word) {indent : String} (indentText : XmlChars indent.toList)
    (level : Nat) :
    ∃ line, s.run resolve (lineBreak indent level ++ '<' :: '/' :: (word ++ ['>']))
      = { s.closed left with line } := by
  have passes : Passes s (s.run resolve (lineBreak indent level)) :=
    passes_lineBreak inText indentText level
  obtain ⟨closers, line, broken⟩ := passes
  have inText' : InText { s with mode := .text closers, line } :=
    ⟨⟨closers, rfl⟩, inText.stage⟩
  have closing := @run_closing resolve _ inText' word inner left innermost chars
  refine ⟨line, ?_⟩
  rw [run_append, broken, closing]
  rfl

/-! ## Elements -/

/-- Children after one another, each on a line of its own, are told of in their order. -/
theorem run_children {α : Type} {indent : String} {text : α → List Char} {P : α → Node → Prop}
    {items : List α} (reads : ∀ x ∈ items, Reads depth (text x) true (P x))
    (indentText : items ≠ [] → XmlChars indent.toList) (inside : 0 < depth) (resolve : Refer)
    (level : Nat) (ready : Ready depth s) :
    ∃ nodes closers line, List.Forall₂ P items nodes ∧
      s.run resolve (items.flatMap fun x => lineBreak indent level ++ text x)
        = { s with
            mode := .text closers
            line
            events := (Node.eventsOfAll nodes).reverse ++ s.events } := by
  have stage : s.stage = .content := by
    rcases ready.stage with ⟨-, stage⟩ | ⟨outside, -⟩
    · exact stage
    · omega
  induction items generalizing s with
  | nil =>
    obtain ⟨closers, mode⟩ := ready.mode
    refine ⟨[], closers, s.line, .nil, ?_⟩
    rw [← mode]
    rfl
  | cons x rest ih =>
    have unit := indentText (List.cons_ne_nil _ _)
    have passes : Passes s (s.run resolve (lineBreak indent level)) :=
      passes_lineBreak ⟨ready.mode, stage⟩ unit level
    obtain ⟨closers, line, broken⟩ := passes
    have ready' : Ready depth { s with mode := .text closers, line } :=
      ⟨⟨closers, rfl⟩, ready.stage, ready.depth, ready.scope, ready.doctype, ready.standalone⟩
    obtain ⟨node, line', holds, told⟩ := reads x (List.mem_cons_self ..) resolve ready'
    have same : ({ s with mode := .text closers, line } : Scan).after node line' true
        = { s with
            mode := .text 0, line := line', events := node.events.reverse ++ s.events } := by
      unfold after
      simp only [stage, beq_self_eq_true, if_true, Bool.and_true]
    have next : Ready depth
        { s with mode := .text 0, line := line', events := node.events.reverse ++ s.events } :=
      ⟨⟨0, rfl⟩, ready.stage, ready.depth, ready.scope, ready.doctype, ready.standalone⟩
    obtain ⟨nodes, closers', line'', others, told'⟩ :=
      ih (fun y inside => reads y (List.mem_cons_of_mem _ inside)) (fun _ => unit) next stage
    refine ⟨node :: nodes, closers', line'', .cons holds others, ?_⟩
    rw [List.flatMap_cons, run_append, run_append, broken, told, same, told', Node.eventsOfAll,
      List.reverse_append, List.append_assoc]

/-- A scan that has gone into a start tag makes of it what the tag says. -/
theorem made_of_opening (ready : Ready depth s)
    (opening : Opening name attributes declared plain sound) {d : TagDraft}
    (word : d.word = name.toList) (held : d.attributes.reverse = attributes) :
    ∃ inner : Scope, inner.lookup "" = none ∧
      Element.ofDraft (s.count '<').type (s.count '<').standalone (s.count '<').scope
          (s.count '<').line (s.count '<').allowance d
        = some ⟨declared, ⟨"", name, s.line, plain⟩, inner, sound, s.allowance⟩ := by
  have type : (s.count '<').type = {} := by
    rw [Scan.type, count, ready.doctype]
    rfl
  have standalone : (s.count '<').standalone = false := ready.standalone
  obtain ⟨inner, free, made⟩ := opening s.line s.allowance ready.scope word held
  refine ⟨inner, free, ?_⟩
  rw [type, standalone]
  exact made

/-- Inside another element one is open, and the root is inside none. -/
theorem Ready.elements (ready : Ready depth s) :
    s.stage = .content ∧ s.elements ≠ []
      ∨ (s.stage = .start ∨ s.stage = .prolog) ∧ s.elements = [] := by
  rcases ready.stage with ⟨inside, stage⟩ | ⟨outside, stage⟩
  · refine .inl ⟨stage, fun none => ?_⟩
    have length := ready.depth
    rw [none, List.length_nil] at length
    omega
  · refine .inr ⟨stage, List.eq_nil_of_length_eq_zero ?_⟩
    rw [ready.depth, outside]

theorem elements_count_lt (ready : Ready depth s) (shallow : depth < elementDepth) :
    (s.count '<').elements.length < elementDepth := by
  have same : (s.count '<').elements = s.elements := rfl
  rw [same, ready.depth]
  exact shallow

section

variable {tag : Tag} {word : List Char} {held : List (List Char × List Char)} {inner : Scope}

/-- A start tag that closes itself is an element without content. -/
theorem opened_eq_after (ready : Ready depth s) :
    (s.count '<').opened ⟨word, held, .slash⟩ ⟨declared, tag, inner, sound, s.allowance⟩
      = s.after (.mk declared tag []) s.line sound := by
  have events : (Node.mk declared tag []).events.reverse
      = .ends :: .starts tag :: (Node.declares declared).reverse := by
    rw [Node.events, Node.eventsOfAll, List.nil_append, List.reverse_append]
    rfl
  rw [opened, after, events]
  rcases ready.elements with ⟨stage, some_⟩ | ⟨stage | stage, none⟩
  · simp [count, stage, TagDraft.isEmptyElement, Node.declares, stageAfter, some_]
  · simp [count, stage, TagDraft.isEmptyElement, Node.declares, stageAfter, none]
  · simp [count, stage, TagDraft.isEmptyElement, Node.declares, stageAfter, none]

/-- The scan after a start tag, inside its element. -/
def entered (s : Scan) (declared : List (String × String)) (tag : Tag) (word : List Char)
    (inner : Scope) (sound : Bool) : Scan :=
  { s with
    mode := .text 0
    stage := .content
    elements := ⟨word, inner⟩ :: s.elements
    events := .starts tag :: ((Node.declares declared).reverse ++ s.events)
    sound := s.sound && sound }

/-- A start tag that does not close itself leads inside its element. -/
theorem opened_eq_entered (ready : Ready depth s) {d : TagDraft} (holds : d.Holds word held) :
    (s.count '<').opened d ⟨declared, tag, inner, sound, s.allowance⟩
      = s.entered declared tag word inner sound := by
  rw [opened, holds.isEmptyElement, holds.word, entered]
  rcases ready.elements with ⟨stage, -⟩ | ⟨stage | stage, -⟩ <;>
    simp [count, stage, Node.declares]

theorem Ready.entered (ready : Ready depth s) (free : inner.lookup "" = none) :
    Ready (depth + 1) (s.entered declared tag word inner sound) where
  mode := ⟨0, rfl⟩
  stage := .inl ⟨Nat.succ_pos _, rfl⟩
  depth := congrArg (· + 1) ready.depth
  scope := free
  doctype := ready.doctype
  standalone := ready.standalone

/-- The end tag leads out of an element, all of which has been told then. -/
theorem closed_entered (ready : Ready depth s) {mode : Mode} {line line' : Nat}
    {nodes : List Node} {events : List Event}
    (told : events = (Node.eventsOfAll nodes).reverse
      ++ (s.entered declared tag word inner sound).events) :
    { closed { s.entered declared tag word inner sound with mode, line, events } s.elements with
        line := line' } = s.after (.mk declared tag nodes) line' sound := by
  have inside : (Node.mk declared tag nodes).events.reverse
      = .ends :: ((Node.eventsOfAll nodes).reverse
          ++ .starts tag :: (Node.declares declared).reverse) := by
    rw [Node.events, List.reverse_append, List.reverse_cons, List.reverse_append]
    simp
  rw [told, closed, after, inside]
  rcases ready.elements with ⟨stage, some_⟩ | ⟨stage | stage, none⟩
  · simp [Scan.entered, stage, stageAfter, some_]
  · simp [Scan.entered, stage, stageAfter, none]
  · simp [Scan.entered, stage, stageAfter, none]

end

/-- An element without children is written as one tag. -/
theorem reads_empty (word : isWord name.toList = true) (writable : Writable attributes)
    (opening : Opening name attributes declared plain sound) (shallow : depth < elementDepth)
    (resolve : Refer) (ready : Ready depth s) :
    ∃ line, s.run resolve ('<' :: (name.toList ++ attributesText attributes) ++ ['/', '>'])
      = s.after (.mk declared ⟨"", name, line, plain⟩ []) line sound := by
  obtain ⟨d, holds, went⟩ := run_opening resolve ready word writable
  have begun := count_ne_start ready
  have slash : ({ s.count '<' with mode := .startTag d } : Scan).run resolve ['/']
      = { s.count '<' with mode := .startTag ⟨d.word, d.attributes, .slash⟩ } := by
    refine run_startTag rfl ?_ ?_ begun
    · rw [TagDraft.fill_cons, holds.step_slash]
      rfl
    · intro c inside
      rw [List.mem_singleton.mp inside]
      decide
  obtain ⟨inner, -, made⟩ :=
    made_of_opening (d := ⟨d.word, d.attributes, .slash⟩) ready opening holds.word
      holds.attributes
  refine ⟨s.line, ?_⟩
  rw [run_append, went, show ['/', '>'] = ['/'] ++ ['>'] from rfl, run_append, slash, run_cons,
    run_nil, step_close rfl made (elements_count_lt ready shallow) begun, opened_eq_after ready]

/-- An element with children is written as two tags around them. -/
theorem reads_filled {α : Type} {indent : String} {text : α → List Char} {P : α → Node → Prop}
    {items : List α} (word : isWord name.toList = true)
    (writable : Writable attributes) (opening : Opening name attributes declared plain sound)
    (reads : ∀ x ∈ items, Reads (depth + 1) (text x) true (P x))
    (indentText : XmlChars indent.toList) (shallow : depth < elementDepth) (level : Nat)
    (resolve : Refer) (ready : Ready depth s) :
    ∃ line line' nodes, List.Forall₂ P items nodes ∧
      s.run resolve ('<' :: (name.toList ++ attributesText attributes)
          ++ '>' :: (items.flatMap fun x => lineBreak indent (level + 1) ++ text x)
          ++ lineBreak indent level ++ '<' :: '/' :: (name.toList ++ ['>']))
        = s.after (.mk declared ⟨"", name, line, plain⟩ nodes) line' sound := by
  obtain ⟨d, holds, went⟩ := run_opening resolve ready word writable
  obtain ⟨inner, free, made⟩ := made_of_opening ready opening holds.word holds.attributes
  have inside : Ready (depth + 1)
      (s.entered declared ⟨"", name, s.line, plain⟩ name.toList inner sound) := ready.entered free
  obtain ⟨nodes, closers, line, children, told⟩ :=
    run_children reads (fun _ => indentText) (Nat.succ_pos _) resolve (level + 1) inside
  obtain ⟨line', ended⟩ := run_ending resolve
    (s := { s.entered declared ⟨"", name, s.line, plain⟩ name.toList inner sound with
      mode := .text closers
      line
      events := (Node.eventsOfAll nodes).reverse
        ++ (s.entered declared ⟨"", name, s.line, plain⟩ name.toList inner sound).events })
    ⟨⟨closers, rfl⟩, rfl⟩ rfl (TagDraft.isWordChar_of_isWord word) indentText level
  refine ⟨s.line, line', nodes, children, ?_⟩
  rw [List.append_assoc, List.append_assoc, run_append, went, List.cons_append, run_cons,
    step_close holds.canClose made (elements_count_lt ready shallow) (count_ne_start ready),
    opened_eq_entered ready holds, run_append, told, ended]
  exact closed_entered ready rfl

/-- The node of an element whose start tag makes this and whose children are such. -/
def Holds {α : Type} (name : String) (declared plain : List (String × String))
    (P : α → Node → Prop) (items : List α) (node : Node) : Prop :=
  ∃ line nodes, node = .mk declared ⟨"", name, line, plain⟩ nodes ∧ List.Forall₂ P items nodes

/-- A written element is scanned as the element of its start tag and its children. -/
theorem reads_element {α : Type} {indent : String} (level : Nat) {text : α → List Char}
    {P : α → Node → Prop} {items : List α} (word : isWord name.toList = true)
    (writable : Writable attributes) (opening : Opening name attributes declared plain sound)
    (reads : ∀ x ∈ items, Reads (depth + 1) (text x) true (P x))
    (indentText : items ≠ [] → XmlChars indent.toList) (shallow : depth < elementDepth) :
    Reads depth (element indent level name (attributesText attributes) (items.map text)) sound
      (Holds name declared plain P items) := by
  intro resolve s ready
  unfold element
  cases items with
  | nil =>
    obtain ⟨line, told⟩ := reads_empty word writable opening shallow resolve ready
    exact ⟨_, line, ⟨line, [], rfl, .nil⟩, told⟩
  | cons x rest =>
    obtain ⟨line, line', nodes, children, told⟩ := reads_filled word writable opening reads
      (indentText (List.cons_ne_nil _ _)) shallow level resolve ready
    refine ⟨_, line', ⟨line, nodes, rfl, children⟩, ?_⟩
    rw [← told]
    simp [List.flatMap_map, Writing.word]

end PrivilegeCatalog.Xml.Scan
