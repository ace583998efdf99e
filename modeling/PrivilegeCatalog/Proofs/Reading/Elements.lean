import PrivilegeCatalog.Proofs.Logged
import PrivilegeCatalog.Proofs.Names
import PrivilegeCatalog.Proofs.Reading.Meaning
import PrivilegeCatalog.Proofs.Reading.Walk

/-!
# What a successful scan of elements gives

Each part of the scan of an entry succeeds under a condition on tags, and then gives what
`PrivilegeCatalog.Proofs.Reading.Meaning` says: the local name, the given name, the mark of an
abstract privilege, and the members. Names are compared by their texts, which determine them.
-/

namespace PrivilegeCatalog

namespace Reading

open Vocabulary
open Xml (Node Tag)

variable {source : String}

/-- The text of an element is a name without colons, as it is in every document that keeps the
rules of namespaces. -/
def Plain (tag : Tag) : Prop := Xml.isPlainName tag.text.toList = true

/-! ## Local names -/

/-- What follows the first of two braces holds the second. -/
theorem exists_brace_of_dropWhile {first : List Char} (second : List Char)
    (inside : '\x7d' ∈ first) :
    ∃ rest, (first ++ '\x7d' :: second).dropWhile (· != '\x7d') = '\x7d' :: rest
      ∧ '\x7d' ∈ rest := by
  induction first with
  | nil => cases inside
  | cons c rest ih =>
    by_cases brace : c = '\x7d'
    · subst brace
      exact ⟨rest ++ '\x7d' :: second, rfl, by simp⟩
    · rw [List.cons_append, List.dropWhile_cons_of_pos (by simpa using brace)]
      exact ih ((List.mem_cons.mp inside).resolve_left (Ne.symm brace))

/-- No name holds a closing brace. -/
theorem isPlainName_of_brace {name : List Char} (inside : '\x7d' ∈ name) :
    Xml.isPlainName name = false := by
  rcases name with _ | ⟨c, rest⟩
  · rfl
  · rw [← Bool.not_eq_true, Xml.isPlainName, Bool.and_eq_true, List.all_eq_true]
    intro both
    rcases List.mem_cons.mp inside with same | inside
    · rw [← same] at both
      exact absurd both.1 (by decide)
    · exact absurd (both.2 _ inside) (by decide)

/-- The full name of an element, without the brace that opens it. -/
theorem toList_fullName (tag : Tag) :
    (tag.uri ++ "\x7d" ++ tag.text).toList = tag.uri.toList ++ '\x7d' :: tag.text.toList := by
  rw [String.toList_append, String.toList_append, List.append_assoc]
  rfl

/-- What is written of a name is its text when the URI ends at the first brace. -/
theorem writtenName_of_legible {tag : Tag} (legible : tag.Legible) :
    tag.writtenName = tag.text := by
  unfold Tag.writtenName
  split
  · rfl
  · have noBrace : ∀ c ∈ tag.uri.toList, (c != '\x7d') = true := by
      intro c inside
      rw [bne_iff_ne]
      intro brace
      exact legible (brace ▸ inside)
    rw [toList_fullName, List.dropWhile_append_of_pos noBrace]
    exact String.ofList_toList

/-- A brace in the URI is left in what is written of a name. -/
theorem brace_of_not_legible {tag : Tag} (illegible : ¬ tag.Legible) :
    '\x7d' ∈ tag.writtenName.toList := by
  have brace : '\x7d' ∈ tag.uri.toList := Classical.not_not.mp illegible
  have labelled : tag.uri ≠ "" := by
    intro empty
    rw [empty] at brace
    cases brace
  obtain ⟨rest, found, left⟩ := exists_brace_of_dropWhile tag.text.toList brace
  rw [Tag.writtenName, if_neg labelled, toList_fullName, found, String.toList_ofList]
  exact left

/-- The local name of an element is its text, unless a brace in its URI is in the way. -/
theorem localName_ok {tag : Tag} (plain : Plain tag) {kind : String} :
    (localName tag).outcome = .ok kind ↔ tag.Legible ∧ tag.text = kind := by
  have outcome : (localName tag).outcome = .ok kind ↔ tag.localName = .ok kind := by
    unfold localName
    cases tag.localName <;> simp [Logged.fail]
  rw [outcome, Tag.localName]
  by_cases legible : tag.Legible
  · unfold Plain at plain
    rw [writtenName_of_legible legible, if_pos plain]
    simp [legible]
  · rw [isPlainName_of_brace (brace_of_not_legible legible), if_neg Bool.false_ne_true]
    simp [legible]

/-- Work that begins with a local name goes on with the text of the element. -/
theorem localName_bind_ok {α : Type} {tag : Tag} (plain : Plain tag) {f : String → Step α}
    {a : α} :
    (localName tag >>= f).outcome = .ok a ↔ tag.Legible ∧ (f tag.text).outcome = .ok a := by
  rw [Logged.outcome_bind_eq_ok]
  simp only [localName_ok plain]
  constructor
  · intro read
    rcases read with ⟨kind, ⟨legible, same⟩, read⟩
    subst same
    exact ⟨legible, read⟩
  · intro read
    exact ⟨tag.text, ⟨read.1, rfl⟩, read.2⟩

/-- The root is taken when its name is the one that a list of privileges starts with. -/
theorem checkRoot_ok {tag : Tag} (plain : Plain tag) :
    (checkRoot tag).outcome = .ok () ↔ tag.Legible ∧ tag.text = rootElement := by
  rw [checkRoot, localName_bind_ok plain]
  by_cases kind : tag.text = rootElement
  · simp [kind]
  · simp [kind, reject, Logged.fail]

/-! ## Attributes -/

/-- The name of an element is read when it is a qualified name. -/
theorem nameOf_ok {element : String} {tag : Tag} {name : Name} :
    (nameOf element tag).outcome = .ok name ↔ name.text = tag.givenName := by
  rw [nameOf, ← Tag.givenName]
  by_cases missing : tag.givenName = ""
  · rw [if_pos missing]
    simp only [reject, Logged.fail, reduceCtorEq, false_iff]
    exact fun same => name.text_ne_empty (same.trans missing)
  · rw [if_neg missing, ← Name.ofText_eq_ok]
    cases Name.ofText tag.givenName <;> simp [reject, Logged.fail]

theorem abstractOf_ok {tag : Tag} {isAbstract : Bool} :
    (abstractOf tag).outcome = .ok isAbstract ↔ tag.givenAbstract? = some isAbstract := by
  rw [abstractOf, Tag.givenAbstract?]
  cases tag.attribute? abstractAttribute with
  | none => simp
  | some value => cases found : truth? value <;> simp [found, reject, Logged.fail]

/-! ## Members -/

/-- The given name of an element and its line. -/
def nameAndLine (tag : Tag) : String × Nat := (tag.givenName, tag.line)

/-- A child of an entry is read as a member or passed over. -/
theorem membersOf_cons_ok {owner : String} {tag : Tag} {rest : List Tag} (plain : Plain tag)
    {members : List (Name × Nat)} :
    (membersOf owner (tag :: rest)).outcome = .ok members ↔
      tag.Legible ∧
        if tag.text = memberElement then
          ∃ name others, name.text = tag.givenName ∧ (membersOf owner rest).outcome = .ok others
            ∧ (name, tag.line) :: others = members
        else (membersOf owner rest).outcome = .ok members := by
  rw [membersOf, localName_bind_ok plain]
  by_cases kind : tag.text = memberElement
  · simp only [if_pos kind, Logged.outcome_bind_eq_ok, nameOf_ok, Logged.outcome_pure,
      Except.ok.injEq, exists_and_left]
  · rw [if_neg kind, if_neg kind, Logged.outcome_note_bind]

/-- The members of an entry are read when the local name of each child can be told and each child
that stands for a member is given a name. -/
theorem membersOf_ok {owner : String} {tags : List Tag} (plain : ∀ tag ∈ tags, Plain tag)
    {members : List (Name × Nat)} :
    (membersOf owner tags).outcome = .ok members ↔
      (∀ tag ∈ tags, tag.Legible) ∧
        members.map (fun m => (m.1.text, m.2))
          = (tags.filter (·.text = memberElement)).map nameAndLine := by
  induction tags generalizing members with
  | nil =>
    rw [membersOf, Logged.outcome_pure, Except.ok.injEq, List.filter_nil, List.map_nil,
      List.map_eq_nil_iff]
    exact ⟨fun same => ⟨fun _ inside => (List.not_mem_nil inside).elim, same.symm⟩,
      fun read => read.2.symm⟩
  | cons tag rest ih =>
    obtain ⟨plainTag, plains⟩ := List.forall_mem_cons.mp plain
    rw [membersOf_cons_ok plainTag, List.forall_mem_cons, and_assoc]
    refine and_congr_right fun _ => ?_
    by_cases kind : tag.text = memberElement
    · rw [if_pos kind, List.filter_cons_of_pos (by simpa using kind), List.map_cons]
      constructor
      · intro read
        rcases read with ⟨name, others, named, read, same⟩
        obtain ⟨legibles, texts⟩ := (ih plains).mp read
        rw [← same, List.map_cons, texts, named]
        exact ⟨legibles, rfl⟩
      · intro given
        rcases given with ⟨legibles, texts⟩
        obtain ⟨⟨name, line⟩, others, made, first, later⟩ := List.map_eq_cons_iff.mp texts
        obtain ⟨named, sameLine⟩ := Prod.mk.inj first
        dsimp only at sameLine
        refine ⟨name, others, named, (ih plains).mpr ⟨legibles, later⟩, ?_⟩
        rw [made, sameLine]
    · rw [if_neg kind, List.filter_cons_of_neg (by simpa using kind)]
      exact ih plains

/-! ## Entries -/

/-- An entry is what a child of the root gives. -/
structure EntryOf (node : Node) (entry : Entry) : Prop where
  legible : ∀ child ∈ node.children, child.tag.Legible
  name : entry.name.text = node.tag.givenName
  isAbstract : node.tag.givenAbstract? = some entry.isAbstract
  line : entry.line = node.tag.line
  members : entry.members.map (fun m => (m.1.text, m.2))
    = (node.members.map Node.tag).map nameAndLine

/-- The tags in an element are names without colons. -/
def PlainEntry (node : Node) : Prop :=
  Plain node.tag ∧ ∀ child ∈ node.children, Plain child.tag

/-- The members of an entry are read from the children of its element. -/
theorem membersOf_children_ok {owner : String} {node : Node} (plain : PlainEntry node)
    {members : List (Name × Nat)} :
    (membersOf owner (node.children.map Node.tag)).outcome = .ok members ↔
      (∀ child ∈ node.children, child.tag.Legible) ∧
        members.map (fun m => (m.1.text, m.2)) = (node.members.map Node.tag).map nameAndLine := by
  rw [membersOf_ok (List.forall_mem_map.mpr plain.2), List.forall_mem_map, Node.members,
    List.filter_map]
  rfl

/-- A child of the root is scanned as an entry or passed over. -/
theorem entryOf_ok {node : Node} (plain : PlainEntry node) {scanned : Option Entry} :
    (entryOf source node.tag (node.children.map Node.tag)).outcome = .ok scanned ↔
      node.tag.Legible ∧
        if node.tag.text = entryElement then ∃ e, scanned = some e ∧ EntryOf node e
        else scanned = none := by
  rw [entryOf, localName_bind_ok plain.1]
  refine and_congr_right fun _ => ?_
  by_cases kind : node.tag.text = entryElement
  · simp only [if_pos kind, Logged.outcome_bind_eq_ok, nameOf_ok, abstractOf_ok,
      membersOf_children_ok plain, Logged.outcome_pure, Except.ok.injEq]
    constructor
    · intro read
      rcases read with ⟨name, named, isAbstract, marked, members, ⟨legible, texts⟩, made⟩
      exact ⟨_, made.symm, legible, named, marked, rfl, texts⟩
    · intro given
      rcases given with ⟨entry, same, given⟩
      refine ⟨entry.name, given.name, entry.isAbstract, given.isAbstract, entry.members,
        ⟨given.legible, given.members⟩, ?_⟩
      rw [same, ← given.line]
  · rw [if_neg kind, if_neg kind, Logged.outcome_note_bind, Logged.outcome_pure, Except.ok.injEq]
    exact eq_comm

end Reading

end PrivilegeCatalog
