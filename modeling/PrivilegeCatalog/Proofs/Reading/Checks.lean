import PrivilegeCatalog.Proofs.Reading.Accepted

/-!
# The checks of a document

What is wrong with a list of privileges, said on its tree: all checks that fail, in the order in
which they are due. A declaration is due where it stands. The name of the root is due after the
declarations of the root; a child of the root after all declarations in it, together with its own
children, since it is looked at when it ends; a label after the whole document, when all bindings
are known.

`Node.rejections` are the checks of a list of privileges. `Node.faults` has between them the local
names that are asked for and cannot be told.
-/

namespace PrivilegeCatalog

/-- The check that failed, if the fault is one. -/
def ReadFault.rejection? : ReadFault → Option Rejection
  | rejected r => some r
  | badTagName _ => none

namespace Xml

open Vocabulary

/-! ## Declarations -/

/-- The binding that a declaration contradicts: one of its label with another URI, or else one of
its URI with another label. -/
def contradicted? (earlier : List (String × String)) (b : String × String) :
    Option (String × String) :=
  match earlier.find? fun a => a.1 = b.1 ∧ a.2 ≠ b.2 with
  | some a => some a
  | none => earlier.find? fun a => a.2 = b.2 ∧ a.1 ≠ b.1

/-- A declaration that contradicts an earlier one. The default namespace plays no part. -/
def conflictFaults (earlier : List (String × String)) (b : String × String) : List Rejection :=
  if b.1 = "" then []
  else (contradicted? earlier b).toList.map fun existing => .conflict (.conflict b.1 b.2 existing)

/-- Declarations after earlier ones, each with all that stand before it. -/
def declarationFaults : (earlier declared : List (String × String)) → List ReadFault
  | _, [] => []
  | earlier, b :: rest =>
    (conflictFaults earlier b).map .rejected
      ++ declarationFaults (earlier ++ Reading.labelled [b]) rest

/-! ## Tags -/

namespace Tag

/-- A local name that cannot be told: the URI holds a closing brace. -/
def namelessFaults (tag : Tag) : List ReadFault :=
  if '\x7d' ∈ tag.uri.toList then [.badTagName tag.writtenName] else []

/-- A name that is missing or blank, or is no qualified name. -/
def nameFaults (element : String) (tag : Tag) : List Rejection :=
  if tag.givenName = "" then [.nameMissing element tag.line]
  else
    match QualifiedName.ofText tag.givenName with
    | .ok _ => []
    | .error fault => [.nameInvalid fault tag.line]

/-- A mark of abstract privileges that is no truth value. -/
def abstractFaults (tag : Tag) : List Rejection :=
  match tag.attribute? abstractAttribute with
  | none => []
  | some value => if (Reading.truth? value).isSome then [] else [.abstractInvalid value tag.line]

/-- The root is named otherwise. -/
def rootFaults (tag : Tag) : List Rejection :=
  if tag.text = rootElement then [] else [.wrongRoot tag.text tag.line]

/-- A child of an entry: a member has to have a name. -/
def memberFaults (tag : Tag) : List ReadFault :=
  tag.namelessFaults
    ++ if tag.text = memberElement then (tag.nameFaults memberElement).map .rejected else []

/-- A name that an entry before this one has; the last one of them comes first. -/
def repetitionFaults (seen : List Tag) (tag : Tag) : List Rejection :=
  (seen.find? (·.givenName = tag.givenName)).toList.map fun earlier =>
    .nameRepeated tag.givenName earlier.line tag.line

/-- A name whose label is not bound. -/
def labelFaults (bindings : List (String × String)) (tag : Tag) : List Rejection :=
  match QualifiedName.ofText tag.givenName with
  | .ok name =>
    if bindings.any (·.1 = name.label) then []
    else [.labelUnknown name.label tag.givenName tag.line]
  | .error _ => []

end Tag

/-! ## Trees -/

namespace Node

/-- A child of the root, after the entries with the given tags. -/
def childFaults (seen : List Tag) (node : Node) : List ReadFault :=
  node.tag.namelessFaults
    ++ if node.tag.text = entryElement then
        (node.tag.nameFaults entryElement).map .rejected
          ++ (node.tag.abstractFaults.map .rejected
            ++ ((node.children.map tag).flatMap Tag.memberFaults
              ++ (node.tag.repetitionFaults seen).map .rejected))
      else []

/-- The tags of the entries up to a child of the root, the last one first. -/
def seenAfter (seen : List Tag) (node : Node) : List Tag :=
  if node.tag.text = entryElement then node.tag :: seen else seen

/-- Children of the root, after earlier declarations and entries: the declarations in each, and
then the child itself. -/
def childrenFaults : (earlier : List (String × String)) → (seen : List Tag) → List Node →
    List ReadFault
  | _, _, [] => []
  | earlier, seen, node :: rest =>
    declarationFaults earlier node.declarations
      ++ (node.childFaults seen
        ++ childrenFaults (earlier ++ Reading.labelled node.declarations)
          (node.seenAfter seen) rest)

/-- The faults of a tree up to the end of the document. -/
def walkFaults (root : Node) : List ReadFault :=
  declarationFaults [] root.declared
    ++ (root.tag.namelessFaults ++ root.tag.rootFaults.map .rejected
      ++ childrenFaults (Reading.labelled root.declared) [] root.children)

/-- All faults of a tree in the order in which they are due. -/
def faults (root : Node) : List ReadFault :=
  root.walkFaults ++ (root.named.flatMap (Tag.labelFaults root.bindings)).map .rejected

/-- All checks of a tree that fail, in the order in which they are due. -/
def rejections (root : Node) : List Rejection := root.faults.filterMap ReadFault.rejection?

end Node

/-! ## Places -/

variable {r : Rejection} {tag : Tag}

/-- A rejection is one of two declarations, or it is reported on the line of one of the given
tags. -/
def OnLineOf (tags : Tag → Prop) (r : Rejection) : Prop :=
  (∃ fault, r = .conflict fault) ∨ ∃ tag, tags tag ∧ r.line? = some tag.line

theorem OnLineOf.mono {tags tags' : Tag → Prop} (sub : ∀ tag, tags tag → tags' tag)
    (on : OnLineOf tags r) : OnLineOf tags' r :=
  on.imp_right fun ⟨tag, told, line⟩ => ⟨tag, sub tag told, line⟩

theorem rejected_mem_map {faults : List Rejection} :
    ReadFault.rejected r ∈ faults.map ReadFault.rejected ↔ r ∈ faults := by
  rw [List.mem_map]
  constructor
  · rintro ⟨r', inside, same⟩
    cases same
    exact inside
  · exact fun inside => ⟨r, inside, rfl⟩

theorem not_mem_namelessFaults : ReadFault.rejected r ∉ tag.namelessFaults := by
  rw [Tag.namelessFaults]
  split_ifs <;> simp

theorem conflict_of_declarationFaults {earlier declared : List (String × String)}
    (inside : .rejected r ∈ declarationFaults earlier declared) :
    ∃ fault, r = .conflict fault := by
  induction declared generalizing earlier with
  | nil => cases inside
  | cons b rest ih =>
    rw [declarationFaults, List.mem_append, rejected_mem_map, conflictFaults] at inside
    rcases inside with first | later
    · split_ifs at first
      · cases first
      · obtain ⟨existing, -, same⟩ := List.mem_map.mp first
        exact ⟨_, same.symm⟩
    · exact ih later

namespace Tag

theorem line_of_nameFaults {element : String} (inside : r ∈ tag.nameFaults element) :
    r.line? = some tag.line := by
  rw [nameFaults] at inside
  split_ifs at inside
  · rw [List.mem_singleton.mp inside]
    rfl
  · split at inside
    · cases inside
    · rw [List.mem_singleton.mp inside]
      rfl

theorem line_of_abstractFaults (inside : r ∈ tag.abstractFaults) : r.line? = some tag.line := by
  rw [abstractFaults] at inside
  split at inside
  · cases inside
  · split_ifs at inside
    · cases inside
    · rw [List.mem_singleton.mp inside]
      rfl

theorem line_of_rootFaults (inside : r ∈ tag.rootFaults) : r.line? = some tag.line := by
  rw [rootFaults] at inside
  split_ifs at inside
  · cases inside
  · rw [List.mem_singleton.mp inside]
    rfl

theorem line_of_memberFaults (inside : .rejected r ∈ tag.memberFaults) :
    r.line? = some tag.line := by
  rw [memberFaults, List.mem_append, or_iff_right not_mem_namelessFaults] at inside
  split_ifs at inside
  · exact line_of_nameFaults (rejected_mem_map.mp inside)
  · cases inside

theorem line_of_repetitionFaults {seen : List Tag} (inside : r ∈ tag.repetitionFaults seen) :
    r.line? = some tag.line := by
  obtain ⟨earlier, -, same⟩ := List.mem_map.mp inside
  rw [← same]
  rfl

theorem line_of_labelFaults {bindings : List (String × String)}
    (inside : r ∈ tag.labelFaults bindings) : r.line? = some tag.line := by
  rw [labelFaults] at inside
  split at inside
  · split_ifs at inside
    · cases inside
    · rw [List.mem_singleton.mp inside]
      rfl
  · cases inside

end Tag

namespace Node

/-- A child of the root is at fault on its own line, or on that of one of its children. -/
theorem onLineOf_childFaults {seen : List Tag} {node : Node}
    (inside : .rejected r ∈ node.childFaults seen) :
    OnLineOf (fun tag => .starts tag ∈ node.events) r := by
  have own : r.line? = some node.tag.line → OnLineOf (fun tag => .starts tag ∈ node.events) r :=
    fun line => .inr ⟨node.tag, node.starts_mem_events, line⟩
  rw [childFaults, List.mem_append, or_iff_right not_mem_namelessFaults] at inside
  split_ifs at inside
  · rw [List.mem_append, List.mem_append, List.mem_append, rejected_mem_map, rejected_mem_map,
      rejected_mem_map] at inside
    rcases inside with name | mark | member | repetition
    · exact own (Tag.line_of_nameFaults name)
    · exact own (Tag.line_of_abstractFaults mark)
    · obtain ⟨tag, told, member⟩ := List.mem_flatMap.mp member
      obtain ⟨child, within, same⟩ := List.mem_map.mp told
      rw [← same] at member
      exact .inr ⟨child.tag, events_subset_of_child within child.starts_mem_events,
        Tag.line_of_memberFaults member⟩
    · exact own (Tag.line_of_repetitionFaults repetition)
  · cases inside

theorem onLineOf_childrenFaults {earlier : List (String × String)} {seen : List Tag}
    {nodes : List Node} (inside : .rejected r ∈ childrenFaults earlier seen nodes) :
    OnLineOf (fun tag => ∃ node ∈ nodes, .starts tag ∈ node.events) r := by
  induction nodes generalizing earlier seen with
  | nil => cases inside
  | cons node rest ih =>
    rw [childrenFaults, List.mem_append, List.mem_append] at inside
    rcases inside with declaration | child | later
    · exact .inl (conflict_of_declarationFaults declaration)
    · exact (onLineOf_childFaults child).mono fun tag told => ⟨node, List.mem_cons_self .., told⟩
    · exact (ih later).mono fun tag ⟨other, within, told⟩ =>
        ⟨other, List.mem_cons_of_mem _ within, told⟩

/-- Every check but those of declarations fails on the line of a start tag of the document. -/
theorem onLineOf_rejections {root : Node} (inside : r ∈ root.rejections) :
    OnLineOf (fun tag => .starts tag ∈ root.events) r := by
  have fault : ReadFault.rejected r ∈ root.faults := by
    obtain ⟨fault, inside, same⟩ := List.mem_filterMap.mp inside
    cases fault with
    | rejected r' =>
      cases same
      exact inside
    | badTagName text => cases same
  rw [faults, walkFaults, List.mem_append, List.mem_append, List.mem_append, List.mem_append,
    rejected_mem_map, rejected_mem_map, or_iff_right not_mem_namelessFaults] at fault
  rcases fault with (declaration | name | child) | label
  · exact .inl (conflict_of_declarationFaults declaration)
  · exact .inr ⟨root.tag, root.starts_mem_events, Tag.line_of_rootFaults name⟩
  · exact (onLineOf_childrenFaults child).mono fun tag ⟨node, within, told⟩ =>
      events_subset_of_child within told
  · obtain ⟨tag, named, label⟩ := List.mem_flatMap.mp label
    exact .inr ⟨tag, Reading.starts_of_named named, Tag.line_of_labelFaults label⟩

end Node

end Xml

end PrivilegeCatalog
