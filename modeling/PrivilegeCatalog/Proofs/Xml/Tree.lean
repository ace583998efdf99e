import PrivilegeCatalog.Xml.Event

/-!
# Elements as trees

An element with all that is inside it. `Node.events` is what the tree tells when it is gone
through in the order of the document, and `Node.declarations` are the namespaces that are declared
anywhere in it.
-/

namespace PrivilegeCatalog.Xml

/-- An element: the namespaces that its start tag declares, the tag, and the elements inside
it. -/
inductive Node
  | mk (declared : List (String × String)) (tag : Tag) (children : List Node)

namespace Node

/-- The namespaces that the start tag of an element declares. -/
def declared : Node → List (String × String)
  | mk declared _ _ => declared

/-- The start tag of an element. -/
def tag : Node → Tag
  | mk _ tag _ => tag

/-- The elements directly inside an element. -/
def children : Node → List Node
  | mk _ _ children => children

/-- The declarations of a start tag as events. -/
def declares (declared : List (String × String)) : List Event :=
  declared.map fun binding => .declares binding.1 binding.2

mutual

/-- What an element tells, from its first declaration to its end. -/
def events : Node → List Event
  | mk declared tag children =>
    declares declared ++ .starts tag :: (eventsOfAll children ++ [.ends])

/-- What elements tell that follow one another. -/
def eventsOfAll : List Node → List Event
  | [] => []
  | node :: rest => node.events ++ eventsOfAll rest

end

mutual

/-- All namespaces that are declared in an element, at any depth, in the order of the document. -/
def declarations : Node → List (String × String)
  | mk declared _ children => declared ++ declarationsOfAll children

/-- All namespaces that are declared in elements that follow one another. -/
def declarationsOfAll : List Node → List (String × String)
  | [] => []
  | node :: rest => node.declarations ++ declarationsOfAll rest

end

theorem eventsOfAll_eq (nodes : List Node) : eventsOfAll nodes = nodes.flatMap events := by
  induction nodes with
  | nil => rfl
  | cons node rest ih => rw [eventsOfAll, ih, List.flatMap_cons]

theorem declarationsOfAll_eq (nodes : List Node) :
    declarationsOfAll nodes = nodes.flatMap declarations := by
  induction nodes with
  | nil => rfl
  | cons node rest ih => rw [declarationsOfAll, ih, List.flatMap_cons]

theorem events_eq (node : Node) :
    node.events = declares node.declared ++ .starts node.tag
      :: (eventsOfAll node.children ++ [.ends]) := by
  cases node with
  | mk declared tag children => rw [events, Node.declared, Node.tag, Node.children]

theorem declarations_eq (node : Node) :
    node.declarations = node.declared ++ declarationsOfAll node.children := by
  cases node with
  | mk declared tag children => rw [declarations, Node.declared, Node.children]

/-- An element tells of its start. -/
theorem starts_mem_events (node : Node) : .starts node.tag ∈ node.events := by
  rw [events_eq]
  simp only [List.mem_append, List.mem_cons, true_or, or_true]

/-- The starts that an element tells of are its own and those of the elements inside it. -/
theorem starts_mem_events_iff {node : Node} {tag : Tag} :
    .starts tag ∈ node.events
      ↔ tag = node.tag ∨ ∃ child ∈ node.children, .starts tag ∈ child.events := by
  have noDeclaration : Event.starts tag ∉ declares node.declared := by
    intro told
    obtain ⟨binding, -, same⟩ := List.mem_map.mp told
    cases same
  rw [events_eq, eventsOfAll_eq]
  simp [noDeclaration]

/-- What an element inside another tells is part of what that one tells. -/
theorem events_subset_of_child {node child : Node} (inside : child ∈ node.children) :
    child.events ⊆ node.events := by
  intro event told
  rw [events_eq, eventsOfAll_eq]
  simp only [List.mem_append, List.mem_cons, List.mem_flatMap]
  exact .inr (.inr (.inl ⟨child, inside, told⟩))

mutual

/-- An element tells of each declaration in it. -/
theorem declares_mem_events : (node : Node) → ∀ {b : String × String}, b ∈ node.declarations →
    .declares b.1 b.2 ∈ node.events
  | mk declared tag children, b, inside => by
    unfold declarations at inside
    unfold events
    rcases List.mem_append.mp inside with own | inner
    · exact List.mem_append_left _ (List.mem_map.mpr ⟨b, own, rfl⟩)
    · refine List.mem_append_right _ (List.mem_cons_of_mem _ (List.mem_append_left _ ?_))
      exact declares_mem_eventsOfAll children inner

/-- Elements that follow one another tell of each declaration in them. -/
theorem declares_mem_eventsOfAll : (nodes : List Node) → ∀ {b : String × String},
    b ∈ declarationsOfAll nodes → .declares b.1 b.2 ∈ eventsOfAll nodes
  | [], b, inside => by
    unfold declarationsOfAll at inside
    cases inside
  | node :: rest, b, inside => by
    unfold declarationsOfAll at inside
    unfold eventsOfAll
    rcases List.mem_append.mp inside with first | later
    · exact List.mem_append_left _ (declares_mem_events node first)
    · exact List.mem_append_right _ (declares_mem_eventsOfAll rest later)

end

/-! ## Trees by their events -/

/-- Declarations and the start after them are told apart from what follows. -/
theorem declares_inj {declared declared' : List (String × String)} {tag tag' : Tag}
    {rest rest' : List Event}
    (same : declares declared ++ .starts tag :: rest
      = declares declared' ++ .starts tag' :: rest') :
    declared = declared' ∧ tag = tag' ∧ rest = rest' := by
  induction declared generalizing declared' with
  | nil =>
    cases declared' with
    | nil =>
      obtain ⟨start, others⟩ := List.cons.inj same
      exact ⟨rfl, Event.starts.inj start, others⟩
    | cons b more => cases (List.cons.inj same).1
  | cons b more ih =>
    cases declared' with
    | nil => cases (List.cons.inj same).1
    | cons b' more' =>
      obtain ⟨first, others⟩ := List.cons.inj same
      obtain ⟨equal, tail⟩ := ih others
      obtain ⟨label, uri⟩ := Event.declares.inj first
      rw [equal, Prod.ext label uri]
      exact ⟨rfl, tail⟩

/-- What an element tells does not begin with an end. -/
theorem events_ne_ends (node : Node) (rest rest' : List Event) :
    node.events ++ rest ≠ .ends :: rest' := by
  intro same
  rw [events_eq] at same
  cases declared : node.declared with
  | nil =>
    rw [declared] at same
    cases (List.cons.inj same).1
  | cons b more =>
    rw [declared] at same
    cases (List.cons.inj same).1

mutual

/-- What an element tells determines the element, whatever is told after it. -/
theorem events_inj : (node node' : Node) → ∀ {rest rest' : List Event},
    node.events ++ rest = node'.events ++ rest' → node = node' ∧ rest = rest'
  | mk declared tag children, mk declared' tag' children', rest, rest', same => by
    rw [events, events, List.append_assoc, List.append_assoc, List.cons_append,
      List.cons_append] at same
    obtain ⟨equal, start, inner⟩ := declares_inj same
    rw [List.append_assoc, List.append_assoc] at inner
    obtain ⟨nodes, tail⟩ := eventsOfAll_inj children children' inner
    rw [equal, start, nodes]
    exact ⟨rfl, tail⟩

/-- What elements tell that are all in one determines them, up to its end. -/
theorem eventsOfAll_inj : (nodes nodes' : List Node) → ∀ {rest rest' : List Event},
    eventsOfAll nodes ++ .ends :: rest = eventsOfAll nodes' ++ .ends :: rest'
      → nodes = nodes' ∧ rest = rest'
  | [], [], _, _, same => ⟨rfl, (List.cons.inj same).2⟩
  | [], node' :: others', rest, rest', same => by
    rw [eventsOfAll, eventsOfAll, List.append_assoc] at same
    exact absurd same.symm (events_ne_ends node' _ _)
  | node :: others, [], rest, rest', same => by
    rw [eventsOfAll, eventsOfAll, List.append_assoc] at same
    exact absurd same (events_ne_ends node _ _)
  | node :: others, node' :: others', rest, rest', same => by
    rw [eventsOfAll, eventsOfAll, List.append_assoc, List.append_assoc] at same
    obtain ⟨first, later⟩ := events_inj node node' same
    obtain ⟨nodes, tail⟩ := eventsOfAll_inj others others' later
    rw [first, nodes]
    exact ⟨rfl, tail⟩

end

/-- A tree is determined by what it tells. -/
theorem events_injective : Function.Injective events := by
  intro node node' same
  have extended : node.events ++ [] = node'.events ++ [] := by rw [same]
  exact (events_inj node node' extended).1

end Node

end PrivilegeCatalog.Xml
