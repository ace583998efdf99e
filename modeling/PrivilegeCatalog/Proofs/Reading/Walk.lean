import PrivilegeCatalog.Proofs.Logged
import PrivilegeCatalog.Proofs.Xml.Tree
import PrivilegeCatalog.Reading

/-!
# Following the events of a tree

What `Reading.follow` does with the events of an element depends on how deep the element stands.
Far inside, only its declarations count (`follow_inner`); a child of a child of the root adds its
tag to those that are kept for the entry (`follow_member`); a child of the root is scanned with
the tags of its children (`follow_entry`); and the root has to carry the right name
(`follow_root`). The counter of open elements and the tags that are kept come back to where they
were, so an element tells the same wherever it stands among its siblings.
-/

namespace PrivilegeCatalog.Reading

open Vocabulary
open Xml (Node Tag Event)

/-! ## Declarations -/

/-- A declaration bound into a table; the default namespace plays no part. -/
def declareIn (source : String) (table : NamespaceTable) (label uri : String) :
    Step NamespaceTable :=
  if label = "" then do
    Logged.note (.defaultNamespaceIgnored uri source)
    return table
  else (table.bind label uri).logged.mapError fun fault => .rejected (.conflict fault)

/-- Declarations bound one after another. -/
def declareAll (source : String) : NamespaceTable → List (String × String) → Step NamespaceTable
  | table, [] => pure table
  | table, (label, uri) :: rest => do
    let table ← declareIn source table label uri
    declareAll source table rest

variable {source : String}

theorem declare_eq (p : Progress) (label uri : String) :
    declare source p label uri
      = declareIn source p.table label uri >>= fun table => pure { p with table } := by
  rw [declare, declareIn]
  split
  · simp only [bind_assoc, pure_bind]
  · rfl

theorem declareAll_append (table : NamespaceTable) (first second : List (String × String)) :
    declareAll source table (first ++ second)
      = declareAll source table first >>= fun table => declareAll source table second := by
  induction first generalizing table with
  | nil => rw [List.nil_append, declareAll, pure_bind]
  | cons binding rest ih => simp only [List.cons_append, declareAll, ih, bind_assoc]

/-- The declarations of a start tag only change the table. -/
theorem follow_declares (p : Progress) (declared : List (String × String)) (events : List Event) :
    follow source p (Node.declares declared ++ events)
      = declareAll source p.table declared >>= fun table =>
          follow source { p with table } events := by
  induction declared generalizing p with
  | nil => rw [Node.declares, List.map_nil, List.nil_append, declareAll, pure_bind]
  | cons binding rest ih =>
    rw [Node.declares, List.map_cons, List.cons_append, follow, step, declare_eq]
    simp only [declareAll, bind_assoc, pure_bind]
    refine bind_congr fun table => ?_
    exact ih { p with table }

/-! ## Elements far inside -/

mutual

/-- Of an element inside a member only the declarations count. -/
theorem follow_inner (k : Nat) (p : Progress) (deep : p.depth = k + 3) (node : Node)
    (events : List Event) :
    follow source p (node.events ++ events)
      = declareAll source p.table node.declarations >>= fun table =>
          follow source { p with table } events := by
  match node with
  | .mk declared tag children =>
    rw [Node.events, Node.declarations, declareAll_append]
    simp only [List.append_assoc, List.cons_append, follow_declares, bind_assoc]
    refine bind_congr fun table => ?_
    rw [follow, step, start]
    simp only [deep, pure_bind, List.nil_append]
    rw [follow_innerAll (k + 1) _ rfl children]
    congr 1

/-- Of elements inside a member only the declarations count. -/
theorem follow_innerAll (k : Nat) (p : Progress) (deep : p.depth = k + 3) (nodes : List Node)
    (events : List Event) :
    follow source p (Node.eventsOfAll nodes ++ events)
      = declareAll source p.table (Node.declarationsOfAll nodes) >>= fun table =>
          follow source { p with table } events := by
  match nodes with
  | [] => rw [Node.eventsOfAll, Node.declarationsOfAll, List.nil_append, declareAll, pure_bind]
  | node :: rest =>
    rw [Node.eventsOfAll, Node.declarationsOfAll, declareAll_append, List.append_assoc,
      follow_inner k p deep node]
    simp only [bind_assoc]
    refine bind_congr fun table => ?_
    exact follow_innerAll k { p with table } deep rest events

end

/-! ## Members -/

/-- An element inside an entry adds its declarations to the table and its tag to the members. -/
theorem follow_member (p : Progress) (depth : p.depth = 2) (node : Node) (events : List Event) :
    follow source p (node.events ++ events)
      = declareAll source p.table node.declarations >>= fun table =>
          follow source { p with table, members := node.tag :: p.members } events := by
  rw [Node.events_eq, Node.declarations_eq, declareAll_append]
  simp only [List.append_assoc, List.cons_append, follow_declares, bind_assoc]
  refine bind_congr fun table => ?_
  rw [follow, step, start]
  simp only [depth, pure_bind, List.nil_append]
  rw [follow_innerAll 0 _ rfl node.children]
  congr 1

/-- Elements inside an entry add their tags to the members, the last one first. -/
theorem follow_members (p : Progress) (depth : p.depth = 2) (nodes : List Node)
    (events : List Event) :
    follow source p (Node.eventsOfAll nodes ++ events)
      = declareAll source p.table (Node.declarationsOfAll nodes) >>= fun table =>
          follow source { p with table, members := (nodes.map Node.tag).reverse ++ p.members }
            events := by
  induction nodes generalizing p with
  | nil =>
    rw [Node.eventsOfAll, Node.declarationsOfAll, List.nil_append, declareAll, pure_bind,
      List.map_nil, List.reverse_nil, List.nil_append]
  | cons node rest ih =>
    rw [Node.eventsOfAll, Node.declarationsOfAll, declareAll_append, List.append_assoc,
      follow_member p depth]
    simp only [bind_assoc]
    refine bind_congr fun table => ?_
    rw [ih _ (by exact depth)]
    simp only [List.map_cons, List.reverse_cons, List.append_assoc, List.singleton_append]

/-! ## Entries -/

/-- The progress between two children of the root. -/
def between (table : NamespaceTable) (entries : List Entry) : Progress :=
  { table, depth := 1, entries }

/-- A child of the root, scanned after those that gave the entries. -/
def scanChild (source : String) (entries : List Entry) (node : Node) : Step (List Entry) := do
  match ← entryOf source node.tag (node.children.map Node.tag) with
  | none => return entries
  | some entry =>
    match firstLine? entries entry.name with
    | some first => reject (.nameRepeated entry.name.text first entry.line)
    | none => return entry :: entries

/-- A child of the root is scanned when all its declarations have been bound. -/
theorem follow_entry (table : NamespaceTable) (entries : List Entry) (node : Node)
    (events : List Event) :
    follow source (between table entries) (node.events ++ events)
      = declareAll source table node.declarations >>= fun table =>
          scanChild source entries node >>= fun entries =>
            follow source (between table entries) events := by
  rw [Node.events_eq, Node.declarations_eq, declareAll_append]
  simp only [List.append_assoc, List.cons_append, follow_declares, bind_assoc, between]
  refine bind_congr fun table => ?_
  rw [follow, step, start]
  simp only [pure_bind, List.nil_append]
  rw [@follow_members source { table, depth := 2, child := some node.tag, entries } rfl]
  refine bind_congr fun table => ?_
  rw [follow, step, finish, scanChild]
  simp only [List.append_nil, List.reverse_reverse, bind_assoc]
  refine bind_congr fun scanned => ?_
  rcases scanned with _ | entry
  · rfl
  · dsimp only
    rcases firstLine? entries entry.name with _ | first <;> rfl

/-- Children of the root one after another. -/
def scanChildren (source : String) : NamespaceTable → List Entry → List Node →
    Step (NamespaceTable × List Entry)
  | table, entries, [] => pure (table, entries)
  | table, entries, node :: rest => do
    let table ← declareAll source table node.declarations
    let entries ← scanChild source entries node
    scanChildren source table entries rest

theorem follow_entries (table : NamespaceTable) (entries : List Entry) (nodes : List Node)
    (events : List Event) :
    follow source (between table entries) (Node.eventsOfAll nodes ++ events)
      = scanChildren source table entries nodes >>= fun (table, entries) =>
          follow source (between table entries) events := by
  induction nodes generalizing table entries with
  | nil => rw [Node.eventsOfAll, List.nil_append, scanChildren, pure_bind]
  | cons node rest ih =>
    rw [Node.eventsOfAll, List.append_assoc, follow_entry]
    simp only [scanChildren, bind_assoc, ih]

/-! ## The root -/

/-- The root has the name that a list of privileges starts with. -/
def checkRoot (tag : Tag) : Step Unit := do
  let kind ← localName tag
  if kind = rootElement then return () else reject (.wrongRoot kind tag.line)

/-- A whole tree: the declarations of the root, its name, and then its children. -/
theorem follow_root (root : Node) :
    follow source {} root.events
      = declareAll source .empty root.declared >>= fun table =>
          checkRoot root.tag >>= fun _ =>
            scanChildren source table [] root.children >>= fun (table, entries) =>
              pure { table, entries } := by
  rw [Node.events_eq, follow_declares]
  refine bind_congr fun table => ?_
  rw [follow, step, start, checkRoot]
  simp only [bind_assoc]
  refine bind_congr fun kind => ?_
  split
  · simp only [pure_bind]
    rw [show ({ ({} : Progress) with table, depth := 1 } : Progress) = between table [] from rfl,
      follow_entries]
    congr 1
  · rfl

end PrivilegeCatalog.Reading
