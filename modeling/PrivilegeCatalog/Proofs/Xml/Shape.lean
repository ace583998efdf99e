import PrivilegeCatalog.Proofs.Xml.Transition
import PrivilegeCatalog.Proofs.Xml.Tree

/-!
# What a scan tells is a tree

While elements are open, the events so far are those of a stack of frames, one for each open
element (`toldByAll`). `Shape` says so for every place in a document: nothing is told before the
root, and exactly one tree has been told after it. `transition_ordered` shows that a character
keeps the shape, and `exists_root` draws the conclusion for a whole document.
-/

namespace PrivilegeCatalog.Xml.Scan

/-! ## Frames -/

/-- An element whose end has not been read: the namespaces it declares, its tag, and its children
so far. -/
structure Frame where
  declared : List (String × String)
  tag : Tag
  children : List Node

/-- The element that a frame becomes when it ends here. -/
def Frame.node (f : Frame) : Node := .mk f.declared f.tag f.children

/-- The frame with a further child. -/
def Frame.add (f : Frame) (node : Node) : Frame := { f with children := f.children ++ [node] }

/-- What has been told since the start of a frame. -/
def Frame.told (f : Frame) : List Event :=
  Node.declares f.declared ++ .starts f.tag :: Node.eventsOfAll f.children

/-- What has been told since the start of the outermost of some frames, the innermost of which is
first. -/
def toldByAll (frames : List Frame) : List Event := frames.reverse.flatMap Frame.told

theorem Frame.told_add (f : Frame) (node : Node) : (f.add node).told = f.told ++ node.events := by
  simp only [told, add, Node.eventsOfAll_eq, List.flatMap_append, List.flatMap_cons,
    List.flatMap_nil, List.append_nil, List.append_assoc, List.cons_append]

theorem Frame.events_node (f : Frame) : f.node.events = f.told ++ [.ends] := by
  rw [node, Node.events, told, List.append_assoc, List.cons_append]

theorem toldByAll_cons (f : Frame) (outer : List Frame) :
    toldByAll (f :: outer) = toldByAll outer ++ f.told := by
  rw [toldByAll, List.reverse_cons, List.flatMap_append, List.flatMap_singleton, toldByAll]

theorem toldByAll_add (f : Frame) (outer : List Frame) (node : Node) :
    toldByAll (f.add node :: outer) = toldByAll (f :: outer) ++ node.events := by
  rw [toldByAll_cons, toldByAll_cons, Frame.told_add, List.append_assoc]

/-! ## Shapes -/

/-- What has been told at a place outside of entities. -/
inductive Shape (s : Scan) : Prop
  | before (stage : s.stage = .start ∨ s.stage = .prolog) (elements : s.elements = [])
      (events : s.events = [])
  | inside {f : Frame} {outer : List Frame} (stage : s.stage = .content)
      (depth : s.elements.length = (f :: outer).length)
      (told : s.events.reverse = toldByAll (f :: outer))
  | after {root : Node} (stage : s.stage = .epilog) (elements : s.elements = [])
      (told : s.events.reverse = root.events)

/-- A scan of a document, in which start tags and document types stand at their places. -/
structure Ordered (s : Scan) : Prop where
  shape : Shape s
  startTag : ∀ d, s.mode = .startTag d → s.takesElement = true
  doctypeText : ∀ text, s.mode = .doctype text → s.stage = .prolog

variable {s s' : Scan} {c : Char}

/-- The shape depends on no more than the stage, the elements and the events. -/
theorem Shape.congr (shape : Shape s) (stage : s'.stage = s.stage)
    (elements : s'.elements = s.elements) (events : s'.events = s.events) : Shape s' := by
  cases shape with
  | before place none told =>
    exact .before (by rwa [stage]) (elements.trans none) (events.trans told)
  | inside place depth told =>
    exact .inside (stage.trans place) (by rw [elements, depth]) (by rw [events, told])
  | after place none told =>
    exact .after (stage.trans place) (elements.trans none) (by rw [events, told])

theorem Shape.count (shape : Shape s) : Shape (s.count c) := by
  cases shape with
  | before place none told =>
    refine .before (.inr ?_) none told
    rw [Scan.count]
    rcases place with place | place <;> rw [place] <;> rfl
  | inside place depth told =>
    refine .inside ?_ depth told
    rw [Scan.count, place]
    rfl
  | after place none told =>
    refine .after ?_ none told
    rw [Scan.count, place]
    rfl

theorem Ordered.count (ordered : Ordered s) : Ordered (s.count c) where
  shape := ordered.shape.count
  startTag d mode := by
    have takes := ordered.startTag d mode
    unfold takesElement at takes ⊢
    rw [Scan.count]
    cases stage : s.stage <;> rw [stage] at takes <;> first | rfl | cases takes
  doctypeText text mode := by
    rw [Scan.count, ordered.doctypeText text mode]
    rfl

/-! ## One character -/

/-- What a start tag tells, in the order of the document. -/
theorem opened_events (s : Scan) (draft : TagDraft) (e : Element) :
    (s.opened draft e).events.reverse = s.events.reverse ++ (Node.declares e.declarations
      ++ .starts e.tag :: if draft.isEmptyElement then [.ends] else []) := by
  have declared : (e.declarations.map fun b => Event.declares b.1 b.2)
      = Node.declares e.declarations := rfl
  rw [opened, declared]
  cases draft.isEmptyElement <;> simp

/-- A start tag opens a frame or adds a child without content. -/
theorem shape_opened {draft : TagDraft} {e : Element} (shape : Shape s)
    (takes : s.takesElement = true) : Shape (s.opened draft e) := by
  have told := opened_events s draft e
  have whole : Node.declares e.declarations ++ [.starts e.tag, .ends]
      = (Node.mk e.declarations e.tag []).events := by
    rw [Node.events, Node.eventsOfAll, List.nil_append]
  have begun : Node.declares e.declarations ++ [.starts e.tag]
      = (Frame.mk e.declarations e.tag []).told := rfl
  cases shape with
  | before stage none events =>
    have prolog : s.stage = .prolog := by
      refine stage.resolve_left fun start => ?_
      rw [takesElement, start] at takes
      cases takes
    rw [events, List.reverse_nil, List.nil_append] at told
    cases empty : draft.isEmptyElement with
    | true =>
      rw [empty, if_pos rfl, whole] at told
      exact .after (by simp [opened, empty, prolog, none, stageAfter])
        (by simp [opened, empty, none]) told
    | false =>
      rw [empty, if_neg Bool.false_ne_true, begun, ← List.nil_append (Frame.told _)] at told
      have told : (s.opened draft e).events.reverse = toldByAll [⟨e.declarations, e.tag, []⟩] :=
        told.trans (toldByAll_cons _ []).symm
      exact .inside (by simp [opened, empty, prolog]) (by simp [opened, empty, none]) told
  | @inside f outer stage depth events =>
    rw [events] at told
    cases empty : draft.isEmptyElement with
    | true =>
      rw [empty, if_pos rfl, whole, ← toldByAll_add] at told
      refine .inside ?_ ?_ told
      · rcases elements : s.elements with _ | ⟨innermost, left⟩
        · rw [elements] at depth
          cases depth
        · simp [opened, empty, stage, elements, stageAfter]
      · simpa [opened, empty] using depth
    | false =>
      rw [empty, if_neg Bool.false_ne_true, begun, ← toldByAll_cons] at told
      refine .inside (by simp [opened, empty, stage]) ?_ told
      simpa [opened, empty] using depth
  | after stage _ _ =>
    rw [takesElement, stage] at takes
    cases takes

/-- An end tag makes the innermost frame a child of the next one, or the root. -/
theorem shape_closed {e : OpenElement} {left : List OpenElement} (shape : Shape s)
    (innermost : s.elements = e :: left) : Shape (s.closed left) := by
  cases shape with
  | before _ none _ =>
    rw [innermost] at none
    cases none
  | @inside f outer stage depth events =>
    have told : (s.closed left).events.reverse = toldByAll outer ++ f.node.events := by
      rw [closed, List.reverse_cons, events, toldByAll_cons, Frame.events_node, List.append_assoc]
    rw [innermost] at depth
    rcases outer with _ | ⟨g, outer⟩
    · have none : left = [] := List.eq_nil_of_length_eq_zero (Nat.succ.inj depth)
      subst none
      exact .after (by rw [closed, stage]; rfl) rfl told
    · rw [← toldByAll_add] at told
      refine .inside (f := g.add f.node) ?_ (Nat.succ.inj depth) told
      rcases left with _ | ⟨next, left⟩
      · cases depth
      · rw [closed, stage]
        rfl
  | after _ none _ =>
    rw [innermost] at none
    cases none

/-- A character keeps a scan in order. -/
theorem transition_ordered (ordered : Ordered s) (next : Transition s c s') :
    s'.mode = .broken ∨ Ordered s' := by
  cases next with
  | breaks broken => exact .inl broken
  | keeps kept =>
    refine .inr ⟨ordered.shape.congr kept.stage kept.elements kept.events, ?_, ?_⟩
    · intro d' mode
      rw [takesElement, kept.stage, ← takesElement]
      rcases kept.startTag d' mode with ⟨d, before, -⟩ | ⟨takes, -⟩
      · exact ordered.startTag d before
      · exact takes
    · intro text mode
      rw [kept.stage]
      rcases kept.doctypeText text mode with ⟨soFar, before, -⟩ | ⟨-, prolog⟩
      · exact ordered.doctypeText soFar before
      · exact prolog
  | opens inTag made =>
    exact .inr ⟨shape_opened ordered.shape (ordered.startTag _ inTag), nofun, nofun⟩
  | closes innermost => exact .inr ⟨shape_closed ordered.shape innermost, nofun, nofun⟩
  | declares inType made =>
    exact .inr ⟨ordered.shape.congr rfl rfl rfl, nofun, nofun⟩

/-! ## Whole documents -/

theorem ordered_start : Ordered {} := ⟨.before (.inl rfl) rfl rfl, nofun, nofun⟩

/-- A whole document tells of one tree. -/
theorem exists_root {cs : List Char} (whole : (Document.ofChars cs).wellFormed = true) :
    ∃ root : Node, (Document.ofChars cs).events = root.events := by
  obtain ⟨-, epilog, -⟩ := isWhole_iff.mp whole
  have ordered : Ordered (ofChars cs) :=
    holds_of_whole ordered_start (fun ordered _ next => transition_ordered ordered next)
      (fun _ ordered => ordered.count) whole
  cases ordered.shape with
  | before stage _ _ =>
    rw [epilog] at stage
    rcases stage with stage | stage <;> cases stage
  | inside stage _ _ =>
    rw [epilog] at stage
    cases stage
  | @after root _ _ told => exact ⟨root, told⟩

end PrivilegeCatalog.Xml.Scan
