import Mathlib.Data.List.Forall2
import PrivilegeCatalog.Proofs.Reading.Bindings
import PrivilegeCatalog.Proofs.Reading.Elements

/-!
# When the reading of a tree succeeds

The events of a tree are read with success exactly when the document keeps the rules of XML and
the tree is a list of privileges, and then the catalog is what the tree means (`ofDocument_ok`).
The parts of the reading are taken one by one: the children of the root after the declarations
before them (`scanChildren_ok`), the whole tree (`follow_root_ok`), and the look-up of labels at
the end (`conclude_ok`).
-/

namespace PrivilegeCatalog.Reading

open Vocabulary
open Xml (Node Tag)

variable {source : String}

/-! ## Children of the root -/

theorem firstLine?_eq_none {entries : List Entry} {name : Name} :
    firstLine? entries name = none ↔ ∀ e ∈ entries, e.name ≠ name := by
  simp [firstLine?, List.find?_eq_none]

/-- A child of the root is passed over, or its entry has a name that no earlier one has. -/
theorem scanChild_ok {node : Node} (plain : PlainEntry node) {entries entries' : List Entry} :
    (scanChild source entries node).outcome = .ok entries' ↔
      node.tag.Legible ∧
        if node.tag.text = entryElement then
          ∃ e, EntryOf node e ∧ (∀ e' ∈ entries, e'.name ≠ e.name) ∧ entries' = e :: entries
        else entries' = entries := by
  rw [scanChild, Logged.outcome_bind_eq_ok]
  simp only [entryOf_ok plain]
  by_cases kind : node.tag.text = entryElement
  · simp only [if_pos kind]
    constructor
    · intro scanned
      rcases scanned with ⟨_, ⟨legible, e, rfl, given⟩, kept⟩
      dsimp only at kept
      cases repeated : firstLine? entries e.name with
      | some first =>
        rw [repeated] at kept
        cases kept
      | none =>
        rw [repeated] at kept
        cases kept
        exact ⟨legible, e, given, firstLine?_eq_none.mp repeated, rfl⟩
    · intro taken
      rcases taken with ⟨legible, e, given, new, same⟩
      refine ⟨some e, ⟨legible, e, rfl, given⟩, ?_⟩
      dsimp only
      rw [firstLine?_eq_none.mpr new, same]
      rfl
  · simp only [if_neg kind]
    constructor
    · intro scanned
      rcases scanned with ⟨_, ⟨legible, rfl⟩, kept⟩
      cases kept
      exact ⟨legible, rfl⟩
    · intro passed
      rcases passed with ⟨legible, same⟩
      subst same
      exact ⟨none, ⟨legible, rfl⟩, rfl⟩

/-- The entries of some children of the root, after those that are there already. -/
structure EntriesOf (nodes : List Node) (earlier new : List Entry) : Prop where
  legible : ∀ node ∈ nodes, node.tag.Legible
  entries : List.Forall₂ EntryOf (nodes.filter (·.tag.text = entryElement)) new
  distinct : (new.map (·.name)).Nodup
  apart : ∀ e ∈ new, ∀ e' ∈ earlier, e'.name ≠ e.name

section

variable {node : Node} {rest : List Node} {earlier new : List Entry}

/-- The entry of a child comes before those of the children after it, and is one of the earlier
ones for them. -/
theorem entriesOf_cons_entry (kind : node.tag.text = entryElement) :
    EntriesOf (node :: rest) earlier new ↔
      node.tag.Legible ∧ ∃ e others, new = e :: others ∧ EntryOf node e
        ∧ (∀ e' ∈ earlier, e'.name ≠ e.name) ∧ EntriesOf rest (e :: earlier) others := by
  have kept : (node :: rest).filter (·.tag.text = entryElement)
      = node :: rest.filter (·.tag.text = entryElement) :=
    List.filter_cons_of_pos (by simpa using kind)
  constructor
  · intro given
    obtain ⟨legible, legibles⟩ := List.forall_mem_cons.mp given.legible
    have entries := given.entries
    rw [kept] at entries
    obtain ⟨e, others, entry, restEntries, rfl⟩ := List.forall₂_cons_left_iff.mp entries
    obtain ⟨fresh, distinct⟩ := List.nodup_cons.mp (List.map_cons ▸ given.distinct)
    obtain ⟨apart, aparts⟩ := List.forall_mem_cons.mp given.apart
    refine ⟨legible, e, others, rfl, entry, apart, legibles, restEntries, distinct, ?_⟩
    intro e' inside
    refine List.forall_mem_cons.mpr ⟨fun same => ?_, aparts e' inside⟩
    exact fresh (List.mem_map.mpr ⟨e', inside, same.symm⟩)
  · intro given
    rcases given with ⟨legible, e, others, rfl, entry, apart, given⟩
    refine ⟨List.forall_mem_cons.mpr ⟨legible, given.legible⟩, ?_, ?_, ?_⟩
    · rw [kept]
      exact .cons entry given.entries
    · rw [List.map_cons, List.nodup_cons]
      refine ⟨fun inside => ?_, given.distinct⟩
      obtain ⟨e', inside, same⟩ := List.mem_map.mp inside
      exact given.apart e' inside e (List.mem_cons_self ..) same.symm
    · refine List.forall_mem_cons.mpr ⟨apart, fun e' inside e'' old => ?_⟩
      exact given.apart e' inside e'' (List.mem_cons_of_mem _ old)

/-- A child of another kind gives no entry. -/
theorem entriesOf_cons_other (kind : node.tag.text ≠ entryElement) :
    EntriesOf (node :: rest) earlier new ↔ node.tag.Legible ∧ EntriesOf rest earlier new := by
  have passed : (node :: rest).filter (·.tag.text = entryElement)
      = rest.filter (·.tag.text = entryElement) :=
    List.filter_cons_of_neg (by simpa using kind)
  constructor
  · intro given
    obtain ⟨legible, legibles⟩ := List.forall_mem_cons.mp given.legible
    exact ⟨legible, legibles, passed ▸ given.entries, given.distinct, given.apart⟩
  · intro given
    rcases given with ⟨legible, given⟩
    exact ⟨List.forall_mem_cons.mpr ⟨legible, given.legible⟩, passed ▸ given.entries,
      given.distinct, given.apart⟩

/-- The entries of the children are those of the first one, when it is scanned, and then those of
the others. -/
theorem exists_entriesOf_cons (plain : PlainEntry node) {made : List Entry} :
    (∃ new, EntriesOf (node :: rest) earlier new ∧ made = new.reverse ++ earlier) ↔
      ∃ next, (scanChild source earlier node).outcome = .ok next
        ∧ ∃ new, EntriesOf rest next new ∧ made = new.reverse ++ next := by
  simp only [scanChild_ok plain]
  by_cases kind : node.tag.text = entryElement
  · simp only [if_pos kind, entriesOf_cons_entry kind]
    constructor
    · intro given
      rcases given with ⟨_, ⟨legible, e, others, rfl, entry, apart, given⟩, made⟩
      rw [List.reverse_cons, List.append_assoc, List.singleton_append] at made
      exact ⟨e :: earlier, ⟨legible, e, entry, apart, rfl⟩, others, given, made⟩
    · intro scanned
      rcases scanned with ⟨_, ⟨legible, e, entry, apart, rfl⟩, others, given, made⟩
      refine ⟨e :: others, ⟨legible, e, others, rfl, entry, apart, given⟩, ?_⟩
      rw [made, List.reverse_cons, List.append_assoc, List.singleton_append]
  · simp only [if_neg kind, entriesOf_cons_other kind]
    constructor
    · intro given
      rcases given with ⟨new, ⟨legible, given⟩, made⟩
      exact ⟨earlier, ⟨legible, rfl⟩, new, given, made⟩
    · intro scanned
      rcases scanned with ⟨_, ⟨legible, rfl⟩, new, given, made⟩
      exact ⟨new, ⟨legible, given⟩, made⟩

end

/-- The children of the root are scanned with success when their declarations can be bound after
the earlier ones and their entries are in order. -/
theorem scanChildren_ok {nodes : List Node} (plain : ∀ node ∈ nodes, PlainEntry node)
    {declared : List (String × String)} (h : OneToOne declared) {entries entries' : List Entry}
    {table : NamespaceTable} :
    (scanChildren source (tableOf declared) entries nodes).outcome = .ok (table, entries') ↔
      (OneToOne (declared ++ labelled (Node.declarationsOfAll nodes))
        ∧ table = tableOf (declared ++ labelled (Node.declarationsOfAll nodes)))
      ∧ ∃ new, EntriesOf nodes entries new ∧ entries' = new.reverse ++ entries := by
  induction nodes generalizing declared entries with
  | nil =>
    rw [scanChildren, Logged.outcome_pure, Except.ok.injEq, Prod.mk.injEq, Node.declarationsOfAll,
      labelled, List.filter_nil, List.append_nil]
    constructor
    · intro scanned
      exact ⟨⟨h, scanned.1.symm⟩, [], ⟨by simp, by simp, by simp, by simp⟩, scanned.2.symm⟩
    · intro given
      rcases given with ⟨⟨-, same⟩, new, given, same'⟩
      rw [List.forall₂_nil_left_iff.mp given.entries] at same'
      exact ⟨same.symm, same'.symm⟩
  | cons node rest ih =>
    obtain ⟨plainNode, plains⟩ := List.forall_mem_cons.mp plain
    have cut : declared ++ labelled (Node.declarationsOfAll (node :: rest))
        = declared ++ labelled node.declarations ++ labelled (Node.declarationsOfAll rest) := by
      rw [Node.declarationsOfAll, List.append_assoc, labelled, List.filter_append, labelled,
        labelled]
    rw [cut, scanChildren, Logged.outcome_bind_eq_ok, exists_entriesOf_cons plainNode]
    simp only [Logged.outcome_bind_eq_ok, declareAll_ok h]
    constructor
    · intro scanned
      rcases scanned with ⟨_, ⟨oneToOne, rfl⟩, next, first, others⟩
      obtain ⟨bound, given⟩ := (ih plains oneToOne).mp others
      exact ⟨bound, next, first, given⟩
    · intro given
      rcases given with ⟨bound, next, first, given⟩
      have oneToOne := bound.1.of_subset (List.subset_append_left _ _)
      exact ⟨_, ⟨oneToOne, rfl⟩, next, first, (ih plains oneToOne).mpr ⟨bound, given⟩⟩

/-! ## Labels -/

/-- Every label that some entries use is bound. -/
def LabelsBound (bindings : List (String × String)) (entries : List Entry) : Prop :=
  ∀ e ∈ entries, ∀ name ∈ e.names, ∃ uri, (name.1.label, uri) ∈ bindings

theorem resolve_ok {bindings : List (String × String)} {entries : List Entry}
    {privileges : List Privilege} :
    resolve (NamespaceTable.ofPairs bindings) entries = .ok privileges ↔
      LabelsBound bindings entries ∧ privileges = entries.map (·.privilege) := by
  have found : unknownLabel? (NamespaceTable.ofPairs bindings) (entries.flatMap (·.names)) = none
      ↔ LabelsBound bindings entries := by
    simp only [unknownLabel?, Option.map_eq_none_iff, List.find?_eq_none, Bool.not_eq_true',
      Bool.not_eq_false, NamespaceTable.hasLabel_ofPairs, List.mem_flatMap, LabelsBound]
    exact ⟨fun all e inside name named => all name ⟨e, inside, named⟩,
      fun all name ⟨e, inside, named⟩ => all e inside name named⟩
  rw [resolve, ← found]
  cases unknownLabel? (NamespaceTable.ofPairs bindings) (entries.flatMap (·.names)) with
  | some r => simp
  | none => exact ⟨fun same => ⟨rfl, (Except.ok.inj same).symm⟩, fun given => by rw [given.2]⟩

/-- After the last event the document has to be whole and every label has to be bound. -/
theorem conclude_ok {declared : List (String × String)} (h : OneToOne declared)
    {entries : List Entry} {wellFormed : Bool} {catalog : Catalog} :
    (conclude source wellFormed { table := tableOf declared, entries }).outcome = .ok catalog ↔
      wellFormed = true ∧ LabelsBound (completed declared) entries.reverse
        ∧ catalog = ⟨entries.reverse.map (·.privilege),
            (NamespaceTable.ofPairs (completed declared)).freeze⟩ := by
  cases wellFormed with
  | false =>
    simp only [Bool.false_eq_true, false_and, iff_false]
    intro concluded
    cases concluded
  | true =>
    rw [conclude, if_pos rfl, Logged.outcome_bind_eq_ok]
    simp only [outcome_addDefaults h, Except.ok.injEq, exists_eq_left', Logged.outcome_bind_eq_ok,
      Logged.ofExcept]
    have resolved := fun privileges =>
      @resolve_ok (completed declared) entries.reverse privileges
    constructor
    · intro concluded
      rcases concluded with ⟨privileges, done, -, -, made⟩
      cases made
      cases outcome : resolve (NamespaceTable.ofPairs (completed declared)) entries.reverse with
      | error r =>
        rw [outcome] at done
        cases done
      | ok found =>
        obtain ⟨bound, rfl⟩ := (resolved found).mp outcome
        rw [outcome] at done
        cases done
        exact ⟨trivial, bound, rfl⟩
    · intro given
      rcases given with ⟨-, bound, same⟩
      subst same
      refine ⟨_, ?_, (), rfl, rfl⟩
      rw [(resolved _).mpr ⟨bound, rfl⟩]
      rfl

/-! ## The whole tree -/

/-- All tags in a tree are plain. -/
def PlainTree (root : Node) : Prop := ∀ tag, .starts tag ∈ root.events → Plain tag

theorem PlainTree.child {node child : Node} (plain : PlainTree node)
    (inside : child ∈ node.children) : PlainTree child :=
  fun tag told => plain tag (Node.events_subset_of_child inside told)

theorem PlainTree.entry {node : Node} (plain : PlainTree node) : PlainEntry node :=
  ⟨plain _ node.starts_mem_events, fun child inside =>
    plain.child inside _ child.starts_mem_events⟩

/-- The texts of the privilege that an entry stands for. -/
theorem EntryOf.texts {node : Node} {e : Entry} (given : EntryOf node e) :
    e.privilege.texts
      = (node.tag.givenName, node.tag.givenAbstract?, node.members.map (·.tag.givenName)) := by
  have members := congrArg (List.map Prod.fst) given.members
  simp only [List.map_map] at members
  rw [Privilege.texts, Entry.privilege, List.map_map, given.name, given.isAbstract]
  exact congrArg (fun members => (_, _, members)) members

/-- The names of an entry and their lines are those of its own tag and of its members. -/
theorem EntryOf.names {node : Node} {e : Entry} (given : EntryOf node e) :
    e.names.map (fun n => (n.1.text, n.2))
      = (node.tag :: node.members.map Node.tag).map nameAndLine := by
  rw [Entry.names, List.map_cons, List.map_cons, given.members, given.name, given.line,
    nameAndLine]

theorem privilege_eq_of_texts {p q : Privilege} (same : p.texts = q.texts) : p = q := by
  obtain ⟨name, isAbstract, members⟩ := p
  obtain ⟨name', isAbstract', members'⟩ := q
  simp only [Privilege.texts, Prod.mk.injEq, Option.some.injEq] at same
  have injective : Function.Injective Name.text := fun _ _ => Name.eq_of_text
  rw [Name.eq_of_text same.1, same.2.1, List.map_injective_iff.mpr injective same.2.2]

theorem privileges_eq_of_texts {privileges privileges' : List Privilege}
    (same : privileges.map Privilege.texts = privileges'.map Privilege.texts) :
    privileges = privileges' :=
  List.map_injective_iff.mpr (fun _ _ => privilege_eq_of_texts) same

/-- An entry can be made of each child of the root whose names are in order. -/
theorem exists_entryOf {node : Node} (legible : ∀ child ∈ node.children, child.tag.Legible)
    (valid : ∀ tag ∈ node.tag :: node.members.map Node.tag,
      (QualifiedName.ofText tag.givenName).isOk = true)
    (marked : node.tag.givenAbstract?.isSome = true) : ∃ e, EntryOf node e := by
  obtain ⟨validName, validMembers⟩ := List.forall_mem_cons.mp valid
  obtain ⟨isAbstract, marked⟩ := Option.isSome_iff_exists.mp marked
  obtain ⟨members, same⟩ : ∃ members : List (Name × Nat),
      members.map (fun m => (m.1.text, m.2)) = (node.members.map Node.tag).map nameAndLine := by
    clear valid
    generalize node.members.map Node.tag = tags at validMembers
    induction tags with
    | nil => exact ⟨[], rfl⟩
    | cons tag rest ih =>
      obtain ⟨validTag, validRest⟩ := List.forall_mem_cons.mp validMembers
      obtain ⟨members, same⟩ := ih validRest
      exact ⟨(⟨_, validTag⟩, tag.line) :: members, by rw [List.map_cons, same]; rfl⟩
  exact ⟨⟨⟨_, validName⟩, isAbstract, node.tag.line, members⟩, legible, rfl, marked, rfl, same⟩

theorem exists_forall₂ {α β : Type} {r : α → β → Prop} {xs : List α} (h : ∀ x ∈ xs, ∃ y, r x y) :
    ∃ ys, List.Forall₂ r xs ys := by
  induction xs with
  | nil => exact ⟨[], .nil⟩
  | cons x rest ih =>
    obtain ⟨⟨y, first⟩, others⟩ := List.forall_mem_cons.mp h
    obtain ⟨ys, later⟩ := ih others
    exact ⟨y :: ys, .cons first later⟩

theorem exists_of_forall₂ {α β : Type} {r : α → β → Prop} {xs : List α} {ys : List β}
    (h : List.Forall₂ r xs ys) : ∀ x ∈ xs, ∃ y ∈ ys, r x y := by
  induction h with
  | nil => simp
  | cons first _ ih =>
    refine List.forall_mem_cons.mpr ⟨⟨_, List.mem_cons_self .., first⟩, fun x inside => ?_⟩
    obtain ⟨y, inside, related⟩ := ih x inside
    exact ⟨y, List.mem_cons_of_mem _ inside, related⟩

section Entries

variable {root : Node} {new : List Entry}

theorem mem_named {tag : Tag} :
    tag ∈ root.named ↔ ∃ node ∈ root.entries, tag ∈ node.tag :: node.members.map Node.tag := by
  rw [Node.named, List.mem_flatMap]

/-- The privileges of entries by their texts. -/
theorem texts_of_entries (given : List.Forall₂ EntryOf root.entries new) :
    (new.map (·.privilege)).map Privilege.texts = root.privilegeTexts := by
  rw [Node.privilegeTexts]
  generalize root.entries = nodes at given
  induction given with
  | nil => rfl
  | cons first _ ih => rw [List.map_cons, List.map_cons, List.map_cons, ih, first.texts]

theorem names_of_entries (given : List.Forall₂ EntryOf root.entries new) :
    (new.map (·.name)).map Name.text = root.entries.map (·.tag.givenName) := by
  generalize root.entries = nodes at given
  induction given with
  | nil => rfl
  | cons first _ ih => rw [List.map_cons, List.map_cons, List.map_cons, ih, first.name]

/-- Each tag that has to be given a name gives one to an entry. -/
theorem exists_name_of_named (given : List.Forall₂ EntryOf root.entries new) {tag : Tag}
    (inside : tag ∈ root.named) :
    ∃ e ∈ new, ∃ name ∈ e.names, name.1.text = tag.givenName := by
  obtain ⟨node, entry, inside⟩ := mem_named.mp inside
  obtain ⟨e, old, made⟩ := exists_of_forall₂ given node entry
  have paired : nameAndLine tag ∈ e.names.map (fun n => (n.1.text, n.2)) := by
    rw [made.names]
    exact List.mem_map_of_mem inside
  obtain ⟨name, inName, same⟩ := List.mem_map.mp paired
  exact ⟨e, old, name, inName, congrArg Prod.fst same⟩

/-- Each name of an entry is given by a tag. -/
theorem exists_named_of_name (given : List.Forall₂ EntryOf root.entries new) {e : Entry}
    (old : e ∈ new) {name : Name × Nat} (inside : name ∈ e.names) :
    ∃ tag ∈ root.named, name.1.text = tag.givenName := by
  obtain ⟨node, entry, made⟩ := exists_of_forall₂ given.flip e old
  have paired : (name.1.text, name.2)
      ∈ (node.tag :: node.members.map Node.tag).map nameAndLine := by
    rw [← EntryOf.names made]
    exact List.mem_map.mpr ⟨name, inside, rfl⟩
  obtain ⟨tag, inTag, same⟩ := List.mem_map.mp paired
  exact ⟨tag, mem_named.mpr ⟨node, entry, inTag⟩, (congrArg Prod.fst same).symm⟩

/-- The parts of a name by its text. -/
theorem ofText_eq_parts {name : Name} {text : String} (same : name.text = text)
    {q : QualifiedName} : QualifiedName.ofText text = .ok q ↔ q = name.parts := by
  rw [← same, name.ofText_parts, Except.ok.injEq, eq_comm]

/-- Labels are bound for entries exactly when they are bound for the tags that give the names. -/
theorem labelsBound_iff (given : List.Forall₂ EntryOf root.entries new)
    {bindings : List (String × String)} :
    LabelsBound bindings new ↔
      ∀ tag ∈ root.named, ∀ name, QualifiedName.ofText tag.givenName = .ok name →
        ∃ uri, (name.label, uri) ∈ bindings := by
  constructor
  · intro bound tag inside q parsed
    obtain ⟨e, old, name, inName, same⟩ := exists_name_of_named given inside
    rw [ofText_eq_parts same] at parsed
    rw [parsed]
    exact bound e old name inName
  · intro bound e old name inside
    obtain ⟨tag, named, same⟩ := exists_named_of_name given old inside
    exact bound tag named name.1.parts ((ofText_eq_parts same).mpr rfl)

/-- The entries of a list of privileges can be made. -/
theorem exists_entries (legible : root.Legible) (readable : root.Readable) :
    ∃ new, List.Forall₂ EntryOf root.entries new := by
  refine exists_forall₂ fun node inside => exists_entryOf ?_ ?_ (readable.abstracts node inside)
  · intro child within
    refine legible _ (List.mem_append_right _ ?_)
    exact List.mem_flatMap.mpr ⟨node, inside, List.mem_map_of_mem within⟩
  · exact fun tag within => (readable.names tag (mem_named.mpr ⟨node, inside, within⟩)).2

/-- Entries in order stand for the privileges that the tree means. -/
theorem denotes_iff (given : List.Forall₂ EntryOf root.entries new) {catalog : Catalog} :
    catalog = ⟨new.map (·.privilege), (NamespaceTable.ofPairs root.bindings).freeze⟩
      ↔ catalog.Denotes root := by
  constructor
  · intro made
    rw [made]
    exact ⟨texts_of_entries given, rfl⟩
  · intro denotes
    have same : catalog.privileges = new.map (·.privilege) :=
      privileges_eq_of_texts (denotes.privileges.trans (texts_of_entries given).symm)
    rw [← same, ← denotes.namespaces]

/-- A list of privileges means a catalog. -/
theorem exists_denotes (legible : root.Legible) (readable : root.Readable) :
    ∃ catalog : Catalog, catalog.Denotes root := by
  obtain ⟨new, entries⟩ := exists_entries legible readable
  exact ⟨_, (denotes_iff entries).mp rfl⟩

theorem legible_iff : root.Legible ↔
    root.tag.Legible ∧ (∀ node ∈ root.children, node.tag.Legible)
      ∧ ∀ node ∈ root.entries, ∀ child ∈ node.children, child.tag.Legible := by
  simp only [Node.Legible, Node.inspected, List.cons_append, List.forall_mem_cons,
    List.forall_mem_append, List.forall_mem_map, List.forall_mem_flatMap]

/-- A tree is a list of privileges whose local names can be told when its entries are in order. -/
theorem exists_entriesOf_iff :
    (root.tag.Legible ∧ root.tag.text = rootElement ∧ OneToOne root.namespaces
        ∧ ∃ new, EntriesOf root.children [] new ∧ LabelsBound root.bindings new)
      ↔ root.Legible ∧ root.Readable := by
  constructor
  · intro given
    rcases given with ⟨legible, rootName, oneToOne, new, given, labels⟩
    have entries : List.Forall₂ EntryOf root.entries new := given.entries
    refine ⟨legible_iff.mpr ⟨legible, given.legible, ?_⟩, rootName, oneToOne, ?_, ?_, ?_,
      (labelsBound_iff entries).mp labels⟩
    · intro node inside
      obtain ⟨e, -, made⟩ := exists_of_forall₂ entries node inside
      exact made.legible
    · intro tag inside
      obtain ⟨e, -, name, -, same⟩ := exists_name_of_named entries inside
      rw [← same]
      exact ⟨name.1.text_ne_empty, name.1.valid⟩
    · intro node inside
      obtain ⟨e, -, made⟩ := exists_of_forall₂ entries node inside
      rw [made.isAbstract]
      rfl
    · rw [← names_of_entries entries]
      exact List.Nodup.map (fun _ _ => Name.eq_of_text) given.distinct
  · intro given
    rcases given with ⟨legible, readable⟩
    obtain ⟨new, entries⟩ := exists_entries legible readable
    obtain ⟨tagLegible, legibles, -⟩ := legible_iff.mp legible
    have distinct := readable.distinct
    rw [← names_of_entries entries] at distinct
    refine ⟨tagLegible, readable.rootName, readable.namespaces, new, ?_, ?_⟩
    · exact ⟨legibles, entries, List.Nodup.of_map _ distinct, by simp⟩
    · exact (labelsBound_iff entries).mpr readable.labels

end Entries

/-- The labels of a catalog stand for what the document binds them to. -/
theorem uriOf?_of_denotes {root : Node} {catalog : Catalog} (denotes : catalog.Denotes root)
    (oneToOne : OneToOne root.namespaces) {label uri : String} :
    catalog.namespaces.uriOf? label = some uri ↔ (label, uri) ∈ root.bindings := by
  rw [denotes.namespaces]
  exact NamespaceTable.uriOf?_ofPairs (oneToOne_completed oneToOne)

/-- The events of a tree are followed to their end when its root is the right one, its
declarations can be bound and its entries are in order. -/
theorem follow_root_ok {root : Node} (plain : PlainTree root) {p : Progress} :
    (follow source {} root.events).outcome = .ok p ↔
      root.tag.Legible ∧ root.tag.text = rootElement ∧ OneToOne root.namespaces
        ∧ ∃ new, EntriesOf root.children [] new
          ∧ { table := tableOf root.namespaces, entries := new.reverse } = p := by
  have plainChildren : ∀ node ∈ root.children, PlainEntry node :=
    fun node inside => (plain.child inside).entry
  have all : labelled root.declared ++ labelled (Node.declarationsOfAll root.children)
      = root.namespaces := by
    rw [labelled, labelled, ← List.filter_append, Node.namespaces, Node.declarations_eq]
  have first := @declareAll_ok source [] root.declared OneToOne.nil
  rw [List.nil_append] at first
  rw [follow_root]
  simp only [Logged.outcome_bind_eq_ok, Logged.outcome_pure, Except.ok.injEq]
  constructor
  · intro followed
    rcases followed with ⟨table₁, bound, _, checked, ⟨table, entries⟩, scanned, same⟩
    obtain ⟨oneToOne₁, rfl⟩ := first.mp bound
    obtain ⟨⟨oneToOne, rfl⟩, new, given, rfl⟩ :=
      (scanChildren_ok plainChildren oneToOne₁).mp scanned
    obtain ⟨legible, kind⟩ := (checkRoot_ok (plain _ root.starts_mem_events)).mp checked
    rw [all] at oneToOne same
    rw [List.append_nil] at same
    exact ⟨legible, kind, oneToOne, new, given, same⟩
  · intro given
    rcases given with ⟨legible, kind, oneToOne, new, given, same⟩
    rw [← all] at oneToOne same
    have oneToOne₁ := oneToOne.of_subset (List.subset_append_left _ _)
    refine ⟨_, first.mpr ⟨oneToOne₁, rfl⟩, (), ?_, (_, new.reverse), ?_, same⟩
    · exact (checkRoot_ok (plain _ root.starts_mem_events)).mpr ⟨legible, kind⟩
    · exact (scanChildren_ok plainChildren oneToOne₁).mpr
        ⟨⟨oneToOne, rfl⟩, new, given, (List.append_nil _).symm⟩

/-- A tree is read with success when the document keeps the rules of XML, the local names can be
told and the tree is a list of privileges; the catalog is then what the tree means. -/
theorem ofDocument_ok {root : Node} (plain : PlainTree root) {wellFormed : Bool}
    {catalog : Catalog} :
    (ofDocument source ⟨root.events, wellFormed⟩).outcome = .ok catalog ↔
      wellFormed = true ∧ root.Legible ∧ root.Readable ∧ catalog.Denotes root := by
  rw [ofDocument, Logged.outcome_bind_eq_ok]
  simp only [follow_root_ok plain]
  constructor
  · intro read
    rcases read with ⟨p, ⟨legible, kind, oneToOne, new, given, rfl⟩, concluded⟩
    obtain ⟨whole, labels, made⟩ := (conclude_ok oneToOne).mp concluded
    rw [List.reverse_reverse] at labels made
    obtain ⟨legible, readable⟩ :=
      exists_entriesOf_iff.mp ⟨legible, kind, oneToOne, new, given, labels⟩
    exact ⟨whole, legible, readable, (denotes_iff given.entries).mp made⟩
  · intro given
    rcases given with ⟨whole, legible, readable, denotes⟩
    obtain ⟨tagLegible, kind, oneToOne, new, given, labels⟩ :=
      exists_entriesOf_iff.mpr ⟨legible, readable⟩
    refine ⟨_, ⟨tagLegible, kind, oneToOne, new, given, rfl⟩, (conclude_ok oneToOne).mpr ?_⟩
    rw [List.reverse_reverse]
    exact ⟨whole, labels, (denotes_iff given.entries).mpr denotes⟩

end PrivilegeCatalog.Reading
