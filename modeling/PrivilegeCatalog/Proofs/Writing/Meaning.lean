import PrivilegeCatalog.Proofs.Reading.Success
import PrivilegeCatalog.Proofs.Writing.Document

/-!
# What a written tree means

The tree of a written document (`RootNode`) is read under the same names without their outer
blanks, and its namespaces are the bindings that were written (`RootNode.meaning`). No element of
it has a namespace, and each of them is an entry or a member.
-/

namespace PrivilegeCatalog.Writing

open Vocabulary
open Xml (Node Tag)

/-- A name as it is read: without its outer blanks. -/
def readName (name : Name) : String := Text.trim name.text

/-! ## Members and entries -/

/-- A tag is that of an element of the vocabulary: of a given kind and without a namespace. -/
structure IsBare (kind : String) (tag : Tag) : Prop where
  uri : tag.uri = ""
  text : tag.text = kind

theorem IsBare.legible {kind : String} {tag : Tag} (bare : IsBare kind tag) : tag.Legible := by
  rw [Tag.Legible, bare.uri]
  exact List.not_mem_nil

theorem IsBare.plain {kind : String} {tag : Tag} (bare : IsBare kind tag)
    (plain : Xml.isPlainName kind.toList = true) : Reading.Plain tag := by
  rw [Reading.Plain, bare.text]
  exact plain

/-- What a written member says. -/
structure MemberMeaning (name : Name) (node : Node) : Prop where
  bare : IsBare memberElement node.tag
  declarations : node.declarations = []
  children : node.children = []
  name : node.tag.givenName = readName name

/-- What a written entry says. -/
structure EntryMeaning (p : Privilege) (node : Node) : Prop where
  bare : IsBare entryElement node.tag
  declarations : node.declarations = []
  name : node.tag.givenName = readName p.name
  isAbstract : node.tag.givenAbstract? = some p.isAbstract
  children : List.Forall₂ MemberMeaning p.members node.children

theorem MemberNode.meaning {name : Name} {node : Node} (given : MemberNode name node) :
    MemberMeaning name node := by
  obtain ⟨line, same⟩ := given
  subst same
  exact ⟨⟨rfl, rfl⟩, rfl, rfl, rfl⟩

/-- Elements that are told apart by the same things as those they stand for. -/
theorem map_eq_of_forall₂ {α β γ : Type} {r : α → β → Prop} {f : α → γ} {g : β → γ} {xs : List α}
    {ys : List β} (h : List.Forall₂ r xs ys) (same : ∀ x y, r x y → g y = f x) :
    ys.map g = xs.map f := by
  induction h with
  | nil => rfl
  | cons first _ ih => rw [List.map_cons, List.map_cons, same _ _ first, ih]

/-- Elements that declare nothing. -/
theorem declarationsOfAll_eq_nil {nodes : List Node}
    (none : ∀ node ∈ nodes, node.declarations = []) : Node.declarationsOfAll nodes = [] := by
  rw [Node.declarationsOfAll_eq, List.flatMap_eq_nil_iff]
  exact none

theorem EntryNode.meaning {p : Privilege} {node : Node} (given : EntryNode p node) :
    EntryMeaning p node := by
  obtain ⟨line, nodes, same, members⟩ := given
  subst same
  have members := members.imp fun _ _ member => MemberNode.meaning member
  have none : Node.declarationsOfAll nodes = [] := by
    refine declarationsOfAll_eq_nil fun member inside => ?_
    obtain ⟨name, -, meaning⟩ := Reading.exists_of_forall₂ members.flip member inside
    exact meaning.declarations
  have truth : Reading.truth? "true" = some true := by decide +kernel
  refine ⟨⟨rfl, rfl⟩, none, ?_, ?_, members⟩
  · rw [Tag.givenName, Tag.attribute?, Node.tag, entryAttributes]
    cases p.isAbstract <;> rfl
  · rw [Tag.givenAbstract?, Tag.attribute?, Node.tag, entryAttributes]
    cases p.isAbstract
    · rfl
    · exact truth

/-- All children of a written entry are members of it. -/
theorem EntryMeaning.members {p : Privilege} {node : Node} (meaning : EntryMeaning p node) :
    node.members = node.children
      ∧ node.members.map (·.tag.givenName) = p.members.map readName := by
  have all : node.members = node.children := by
    rw [Node.members, List.filter_eq_self]
    intro child inside
    obtain ⟨name, -, member⟩ := Reading.exists_of_forall₂ meaning.children.flip child inside
    exact decide_eq_true member.bare.text
  refine ⟨all, ?_⟩
  rw [all]
  exact map_eq_of_forall₂ meaning.children fun _ _ member => member.name

/-! ## The root -/

/-- What a written root says. -/
structure RootMeaning (privileges : List Privilege) (bindings : List (String × String))
    (root : Node) : Prop where
  bare : IsBare rootElement root.tag
  declarations : root.declarations = bindings
  children : List.Forall₂ EntryMeaning privileges root.children

theorem RootNode.meaning {privileges : List Privilege} {bindings : List (String × String)}
    {root : Node} (given : RootNode privileges bindings root) :
    RootMeaning privileges bindings root := by
  obtain ⟨line, nodes, same, entries⟩ := given
  subst same
  have entries := entries.imp fun _ _ entry => EntryNode.meaning entry
  refine ⟨⟨rfl, rfl⟩, ?_, entries⟩
  have none : Node.declarationsOfAll nodes = [] := by
    refine declarationsOfAll_eq_nil fun entry inside => ?_
    obtain ⟨p, -, meaning⟩ := Reading.exists_of_forall₂ entries.flip entry inside
    exact meaning.declarations
  rw [Node.declarations, none, List.append_nil]

namespace RootMeaning

variable {privileges : List Privilege} {bindings : List (String × String)} {root : Node}

/-- Each child of a written root is a privilege. -/
theorem exists_privilege (meaning : RootMeaning privileges bindings root) {node : Node}
    (inside : node ∈ root.children) : ∃ p ∈ privileges, EntryMeaning p node :=
  Reading.exists_of_forall₂ meaning.children.flip node inside

theorem entries (meaning : RootMeaning privileges bindings root) :
    root.entries = root.children := by
  rw [Node.entries, List.filter_eq_self]
  intro node inside
  obtain ⟨p, -, entry⟩ := meaning.exists_privilege inside
  exact decide_eq_true entry.bare.text

/-- Every element of a written document is bare. -/
theorem exists_bare (meaning : RootMeaning privileges bindings root) {tag : Tag}
    (told : .starts tag ∈ root.events) :
    ∃ kind, Xml.isPlainName kind.toList = true ∧ IsBare kind tag := by
  rcases Node.starts_mem_events_iff.mp told with same | ⟨node, inside, told⟩
  · rw [same]
    exact ⟨_, isPlainName_root, meaning.bare⟩
  · obtain ⟨p, -, entry⟩ := meaning.exists_privilege inside
    rcases Node.starts_mem_events_iff.mp told with same | ⟨child, within, told⟩
    · rw [same]
      exact ⟨_, isPlainName_entry, entry.bare⟩
    · obtain ⟨name, -, member⟩ := Reading.exists_of_forall₂ entry.children.flip child within
      rcases Node.starts_mem_events_iff.mp told with same | ⟨other, none, -⟩
      · rw [same]
        exact ⟨_, isPlainName_member, member.bare⟩
      · rw [member.children] at none
        cases none

theorem plainTree (meaning : RootMeaning privileges bindings root) : Reading.PlainTree root := by
  intro tag told
  obtain ⟨kind, plain, bare⟩ := meaning.exists_bare told
  exact bare.plain plain

theorem legible (meaning : RootMeaning privileges bindings root) : root.Legible := by
  intro tag inside
  have told : .starts tag ∈ root.events := by
    simp only [Node.inspected, List.cons_append, List.mem_cons, List.mem_append, List.mem_map,
      List.mem_flatMap, meaning.entries] at inside
    rcases inside with same | ⟨node, inside, same⟩ | ⟨node, inside, child, within, same⟩
    · rw [same]
      exact root.starts_mem_events
    · rw [← same]
      exact Node.events_subset_of_child inside node.starts_mem_events
    · rw [← same]
      exact Node.events_subset_of_child inside
        (Node.events_subset_of_child within child.starts_mem_events)
  obtain ⟨kind, -, bare⟩ := meaning.exists_bare told
  exact bare.legible

/-- The privileges are read with their names without outer blanks. -/
theorem privilegeTexts (meaning : RootMeaning privileges bindings root) :
    root.privilegeTexts
      = privileges.map fun p => (readName p.name, some p.isAbstract, p.members.map readName) := by
  rw [Node.privilegeTexts, meaning.entries]
  refine map_eq_of_forall₂ meaning.children fun p node entry => ?_
  rw [entry.name, entry.isAbstract, entry.members.2]

theorem entryNames (meaning : RootMeaning privileges bindings root) :
    root.entries.map (·.tag.givenName) = privileges.map (readName ·.name) := by
  have texts := congrArg (List.map Prod.fst) meaning.privilegeTexts
  rw [Node.privilegeTexts, List.map_map, List.map_map] at texts
  exact texts

/-- The names that are read are those of the privileges and of their members. -/
theorem givenNames (meaning : RootMeaning privileges bindings root) :
    root.named.map Tag.givenName = privileges.flatMap fun p => p.names.map readName := by
  have names : root.children.map
      (fun node => (node.tag :: node.members.map Node.tag).map Tag.givenName)
        = privileges.map fun p => p.names.map readName := by
    refine map_eq_of_forall₂ meaning.children fun p node entry => ?_
    rw [List.map_cons, entry.name, List.map_map]
    exact congrArg (readName p.name :: ·) entry.members.2
  rw [Node.named, meaning.entries, List.map_flatMap, List.flatMap_def, names,
    ← List.flatMap_def]

end RootMeaning

end PrivilegeCatalog.Writing
