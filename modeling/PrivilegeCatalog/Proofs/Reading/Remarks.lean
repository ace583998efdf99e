import PrivilegeCatalog.NamespaceTable.Command
import PrivilegeCatalog.Proofs.Reading.Accepted

/-!
# What a reading warns of

A document that is read has each child of its root, and each child of an entry, either in the
catalog or in a warning. `Node.remarks` are the warnings as they are said of the tree: one for
each child of the root that is no entry, and one for each child of an entry that is no member, in
the order of the document. The reading gives just these (`ofContent_warns`), and together with the
privileges and their members they are as many as there are such children (`count_disposed`).
-/

namespace PrivilegeCatalog

open Vocabulary
open Xml (Content Node Tag)

/-! ## The remarks of a tree -/

namespace Xml.Node

/-- The remarks about the children of an entry: one for each that is no member. -/
def memberRemarks (entry : Node) : List Notice :=
  (entry.children.filter (·.tag.text ≠ memberElement)).map fun child =>
    .memberSkipped child.tag.text entry.tag.givenName

/-- The remarks about a child of the root: those about its children when it is an entry, and one
about itself when it is not. -/
def childRemarks (source : String) (child : Node) : List Notice :=
  if child.tag.text = entryElement then child.memberRemarks
  else [.entrySkipped child.tag.text source child.tag.line]

/-- The remarks about a document. -/
def remarks (source : String) (root : Node) : List Notice :=
  root.children.flatMap (childRemarks source)

/-- Each child of an entry is a member or in a remark. -/
theorem count_members (entry : Node) :
    entry.members.length + entry.memberRemarks.length = entry.children.length := by
  rw [members, memberRemarks, List.length_map]
  induction entry.children with
  | nil => rfl
  | cons child rest ih =>
    by_cases kind : child.tag.text = memberElement <;> simp [kind] at ih ⊢ <;> omega

/-- Each child of the root is an entry or in a remark, and so is each child of an entry. -/
theorem count_disposed (source : String) (root : Node) :
    root.entries.length + (root.entries.flatMap members).length + (root.remarks source).length
      = root.children.length + (root.entries.flatMap children).length := by
  rw [entries, remarks]
  induction root.children with
  | nil => rfl
  | cons child rest ih =>
    rw [List.flatMap_cons, List.length_append, childRemarks]
    by_cases kind : child.tag.text = entryElement
    · have members := child.count_members
      simp only [kind, decide_true, List.filter_cons_of_pos, List.length_cons, List.flatMap_cons,
        List.length_append, if_true]
      omega
    · simp only [kind, decide_false, Bool.false_eq_true, not_false_eq_true,
        List.filter_cons_of_neg, if_false, List.length_cons, List.length_nil]
      omega

end Xml.Node

/-! ## Tables -/

namespace NamespaceTable

variable {t : NamespaceTable}

theorem bind_silent (label uri : String) :
    ∀ n ∈ (t.bind label uri).notices, n.isWarning = false := by
  unfold bind
  split
  · nofun
  · split
    · nofun
    · split
      · nofun
      · simp [Notice.isWarning]

theorem bindAll_silent (pairs : List (String × String)) :
    ∀ n ∈ (t.bindAll pairs).notices, n.isWarning = false := by
  induction pairs generalizing t with
  | nil => nofun
  | cons b rest ih =>
    rw [bindAll]
    dsimp only
    split
    · exact bind_silent b.1 b.2
    · exact List.forall_mem_append.mpr ⟨bind_silent b.1 b.2, ih⟩

theorem addDefaults_silent (defaults : List (String × String)) :
    ∀ n ∈ (t.addDefaults defaults).notices, n.isWarning = false := by
  induction defaults generalizing t with
  | nil => nofun
  | cons b rest ih =>
    rw [addDefaults]
    split
    · exact List.forall_mem_cons.mpr ⟨rfl, ih⟩
    · dsimp only
      split
      · exact bind_silent b.1 b.2
      · exact List.forall_mem_append.mpr ⟨bind_silent b.1 b.2, ih⟩

/-- No command to a table gives a warning. -/
theorem run_silent (c : Command) : ∀ n ∈ (t.run c).notices, n.isWarning = false := by
  cases c with
  | bind label uri => exact bind_silent label uri
  | addDefaults defaults => exact addDefaults_silent defaults
  | sameAs pairs => exact bindAll_silent pairs
  | copy =>
    have silent : (ofBindings t.uris).Silent := bindAll_silent t.uris
    exact silent.bind fun _ => nofun
  | _ => nofun

end NamespaceTable

namespace Reading

variable {source : String} {α β : Type}

/-! ## Work that warns -/

/-- When a piece of work is done, its warnings are the given ones. -/
def Warns (work : Step α) (remarks : List Notice) : Prop :=
  ∀ a, work.outcome = .ok a → work.warnings = remarks

namespace Warns

variable {work : Step α} {next : α → Step β} {remarks more : List Notice}

theorem of_silent (silent : work.Silent) : Warns work [] := fun _ _ => Logged.silent_iff.mp silent

/-- The warnings of two halves, the second of which counts only when the first is done. -/
theorem bind (first : Warns work remarks)
    (second : ∀ a, work.outcome = .ok a → Warns (next a) more) :
    Warns (work >>= next) (remarks ++ more) := by
  intro b done
  obtain ⟨a, doneFirst, doneSecond⟩ := Logged.outcome_bind_eq_ok.mp done
  rw [Logged.warnings_bind doneFirst, first a doneFirst, second a doneFirst b doneSecond]

/-- Work after a silent half. -/
theorem after_silent (silent : work.Silent)
    (second : ∀ a, work.outcome = .ok a → Warns (next a) more) : Warns (work >>= next) more :=
  (of_silent silent).bind second

/-- Work before a silent half. -/
theorem before_silent (first : Warns work remarks) (silent : ∀ a, (next a).Silent) :
    Warns (work >>= next) remarks :=
  List.append_nil remarks ▸ first.bind fun a _ => of_silent (silent a)

/-- A warning before a piece of work. -/
theorem note {n : Notice} {next : Unit → Step α} (warning : n.isWarning = true)
    (second : Warns (next ()) more) : Warns (Logged.note n >>= next) (n :: more) := by
  have first : Warns (Logged.note n : Step Unit) [n] :=
    fun _ _ => List.filter_cons_of_pos warning
  exact first.bind fun _ _ => second

end Warns

/-! ## Silent parts -/

theorem localName_silent (tag : Tag) : (localName tag).Silent := by
  unfold localName
  split <;> nofun

theorem nameOf_silent (element : String) (tag : Tag) : (nameOf element tag).Silent := by
  unfold nameOf
  dsimp only
  split
  · nofun
  · split <;> nofun

theorem abstractOf_silent (tag : Tag) : (abstractOf tag).Silent := by
  unfold abstractOf
  split
  · nofun
  · split <;> nofun

theorem declareIn_silent (table : NamespaceTable) (label uri : String) :
    (declareIn source table label uri).Silent := by
  unfold declareIn
  split
  · exact List.forall_mem_singleton.mpr rfl
  · exact NamespaceTable.bind_silent label uri

theorem declareAll_silent (table : NamespaceTable) (declarations : List (String × String)) :
    (declareAll source table declarations).Silent := by
  induction declarations generalizing table with
  | nil => nofun
  | cons b rest ih => exact (declareIn_silent table b.1 b.2).bind ih

theorem checkRoot_silent (tag : Tag) : (checkRoot tag).Silent := by
  refine (localName_silent tag).bind fun kind => ?_
  split <;> nofun

theorem conclude_silent (wellFormed : Bool) (p : Progress) :
    (conclude source wellFormed p).Silent := by
  have added : ((p.table.addDefaults wellKnown).logged.mapError fun fault =>
      ReadFault.rejected (.conflict fault)).Silent := NamespaceTable.addDefaults_silent wellKnown
  cases wellFormed with
  | false => exact List.forall_mem_nil _
  | true =>
    rw [conclude, if_pos rfl]
    refine added.bind fun table => Logged.Silent.bind (List.forall_mem_nil _) fun privileges => ?_
    exact Logged.Silent.bind (List.forall_mem_singleton.mpr rfl) fun _ => List.forall_mem_nil _

/-! ## Elements -/

/-- The members of an entry come with a warning about each other child. -/
theorem membersOf_warns {owner : String} {tags : List Tag} (plain : ∀ tag ∈ tags, Plain tag) :
    Warns (membersOf owner tags)
      ((tags.filter (·.text ≠ memberElement)).map fun tag => .memberSkipped tag.text owner) := by
  induction tags with
  | nil => exact .of_silent nofun
  | cons tag rest ih =>
    obtain ⟨plainTag, plains⟩ := List.forall_mem_cons.mp plain
    refine .after_silent (localName_silent tag) fun kind told => ?_
    obtain ⟨-, rfl⟩ := (localName_ok plainTag).mp told
    by_cases member : tag.text = memberElement
    · rw [if_pos member, List.filter_cons_of_neg (by simpa using member)]
      refine .after_silent (nameOf_silent _ tag) fun name _ => ?_
      exact (ih plains).before_silent fun _ => nofun
    · rw [if_neg member, List.filter_cons_of_pos (by simpa using member), List.map_cons]
      exact .note rfl (ih plains)

/-- The remarks about the children of an entry are those about their tags. -/
theorem memberRemarks_eq (node : Node) :
    node.memberRemarks
      = ((node.children.map Node.tag).filter (·.text ≠ memberElement)).map fun tag =>
      .memberSkipped tag.text node.tag.givenName := by
  rw [Node.memberRemarks, List.filter_map, List.map_map]
  rfl

/-- A child of the root gives an entry and the warnings about its children, or one about
itself. -/
theorem entryOf_warns {node : Node} (plain : PlainEntry node) :
    Warns (entryOf source node.tag (node.children.map Node.tag)) (node.childRemarks source) := by
  refine .after_silent (localName_silent node.tag) fun kind told => ?_
  obtain ⟨-, rfl⟩ := (localName_ok plain.1).mp told
  rw [Node.childRemarks]
  by_cases entry : node.tag.text = entryElement
  · rw [if_pos entry, if_pos entry, memberRemarks_eq]
    refine .after_silent (nameOf_silent _ node.tag) fun name named => ?_
    rw [← nameOf_ok.mp named]
    refine .after_silent (abstractOf_silent node.tag) fun isAbstract _ => ?_
    exact (membersOf_warns (List.forall_mem_map.mpr plain.2)).before_silent fun _ => nofun
  · rw [if_neg entry, if_neg entry]
    exact .note rfl (.of_silent nofun)

theorem scanChild_warns {node : Node} (plain : PlainEntry node) (entries : List Entry) :
    Warns (scanChild source entries node) (node.childRemarks source) := by
  refine (entryOf_warns plain).before_silent fun scanned => ?_
  split
  · nofun
  · split <;> nofun

/-- The children of the root give their warnings one after another. -/
theorem scanChildren_warns {nodes : List Node} (plain : ∀ node ∈ nodes, PlainEntry node)
    (table : NamespaceTable) (entries : List Entry) :
    Warns (scanChildren source table entries nodes)
      (nodes.flatMap (Node.childRemarks source)) := by
  induction nodes generalizing table entries with
  | nil => exact .of_silent nofun
  | cons node rest ih =>
    obtain ⟨plainNode, plains⟩ := List.forall_mem_cons.mp plain
    rw [List.flatMap_cons]
    refine .after_silent (declareAll_silent table node.declarations) fun table _ => ?_
    exact (scanChild_warns plainNode entries).bind fun entries _ => ih plains table entries

/-! ## Documents -/

/-- The events of a tree are followed with the warnings about it. -/
theorem follow_root_warns {root : Node} (plain : PlainTree root) :
    Warns (follow source {} root.events) (root.remarks source) := by
  have plains : ∀ node ∈ root.children, PlainEntry node :=
    fun node inside => (plain.child inside).entry
  rw [follow_root, Node.remarks]
  refine .after_silent (declareAll_silent _ root.declared) fun table _ => ?_
  refine .after_silent (checkRoot_silent root.tag) fun _ _ => ?_
  exact (scanChildren_warns plains table []).before_silent fun _ => nofun

/-- A document that is read comes with the warnings about its tree and no others. -/
theorem ofContent_warns {content : Content} {catalog : Catalog} {root : Node}
    (read : (ofContent source content).outcome = .ok catalog)
    (told : content.document.events = root.events) :
    (ofContent source content).warnings = root.remarks source := by
  have plain := plainTree_of_told (wellFormed_of_read read) told
  unfold ofContent at read ⊢
  split at read
  case isTrue => cases read
  case isFalse filled =>
    rw [if_neg filled]
    have warns : Warns (ofDocument source content.document) (root.remarks source) := by
      rw [ofDocument, told]
      exact (follow_root_warns plain).before_silent fun p => conclude_silent _ p
    exact warns catalog read

end Reading

end PrivilegeCatalog
