import PrivilegeCatalog.Proofs.Reading.Accepted

/-!
# How reading fails

Reading fails by rejecting the document, or at an element that is asked for its local name and has
none. `Nameless` says when an event is of the second kind: at the start of the root, and at the
end of a child of the root, whose own name and those of its children are asked for in order. One
step fails so exactly then (`step_nameless`), and a reading when all events before such a one are
followed (`ofContent_nameless`). In a document that keeps the rules of XML the element in question
has a closing brace in its namespace (`exists_illegible`).
-/

namespace PrivilegeCatalog.Reading

open Vocabulary
open Xml (Content Event Node Tag)

variable {source : String} {α β : Type}

/-! ## Work that only rejects -/

/-- No local name that is missing stops this work. -/
def OnlyRejects (work : Step α) : Prop := ∀ text, work.outcome ≠ .error (.badTagName text)

namespace OnlyRejects

theorem ok {notices : List Notice} {a : α} : OnlyRejects ⟨notices, .ok a⟩ := nofun

theorem reject {r : Rejection} : OnlyRejects (reject r : Step α) := nofun

theorem mapError {δ : Type} {work : Logged δ α} (f : δ → Rejection) :
    OnlyRejects (work.mapError fun fault => .rejected (f fault)) := by
  intro text failed
  rcases work with ⟨notices, fault | a⟩ <;> cases failed

theorem bind {work : Step α} {next : α → Step β} (first : OnlyRejects work)
    (second : ∀ a, work.outcome = .ok a → OnlyRejects (next a)) :
    OnlyRejects (work >>= next) := by
  intro text failed
  rcases Logged.outcome_bind_eq_error.mp failed with failed | ⟨a, done, failed⟩
  · exact first text failed
  · exact second a done text failed

end OnlyRejects

/-- After work that only rejects, what is missing is missed by the work that follows. -/
theorem bind_nameless {work : Step α} {next : α → Step β} (first : OnlyRejects work)
    {text : String} :
    (work >>= next).outcome = .error (.badTagName text) ↔
      ∃ a, work.outcome = .ok a ∧ (next a).outcome = .error (.badTagName text) := by
  rw [Logged.outcome_bind_eq_error, or_iff_right (first text)]

theorem nameOf_onlyRejects (element : String) (tag : Tag) : OnlyRejects (nameOf element tag) := by
  unfold nameOf
  dsimp only
  split
  · exact .reject
  · split
    · exact .ok
    · exact .reject

theorem abstractOf_onlyRejects (tag : Tag) : OnlyRejects (abstractOf tag) := by
  unfold abstractOf
  split
  · exact .ok
  · split
    · exact .ok
    · exact .reject

theorem declareIn_onlyRejects (table : NamespaceTable) (label uri : String) :
    OnlyRejects (declareIn source table label uri) := by
  unfold declareIn
  split
  · exact .ok
  · exact .mapError .conflict

theorem declare_onlyRejects (p : Progress) (label uri : String) :
    OnlyRejects (declare source p label uri) := by
  rw [declare_eq]
  exact .bind (declareIn_onlyRejects _ _ _) fun _ _ => .ok

theorem conclude_onlyRejects (wellFormed : Bool) (p : Progress) :
    OnlyRejects (conclude source wellFormed p) := by
  unfold conclude
  split
  · refine .bind (.mapError .conflict) fun table _ => .bind ?_ fun _ _ => .ok
    intro text failed
    cases resolved : resolve table p.entries.reverse <;>
      simp [Logged.ofExcept, resolved, Except.mapError] at failed
  · refine .bind .reject fun _ given => ?_
    cases given

/-! ## Local names -/

theorem localName_outcome_ok {tag : Tag} {kind : String} :
    (localName tag).outcome = .ok kind ↔ tag.localName = .ok kind := by
  unfold localName
  cases tag.localName <;> simp [Logged.fail]

theorem localName_nameless {tag : Tag} {text : String} :
    (localName tag).outcome = .error (.badTagName text) ↔ tag.localName = .error text := by
  unfold localName
  cases tag.localName <;> simp [Logged.fail]

theorem localName_of_legible {tag : Tag} (plain : Plain tag) (legible : tag.Legible) :
    tag.localName = .ok tag.text :=
  localName_outcome_ok.mp ((localName_ok plain).mpr ⟨legible, rfl⟩)

/-- Work that begins with a local name misses it, or misses another one later. -/
theorem localName_bind_nameless {tag : Tag} {next : String → Step α} {text : String} :
    (localName tag >>= next).outcome = .error (.badTagName text) ↔
      tag.localName = .error text
        ∨ ∃ kind, tag.localName = .ok kind ∧ (next kind).outcome = .error (.badTagName text) := by
  simp only [Logged.outcome_bind_eq_error, localName_nameless, localName_outcome_ok]

/-! ## One event -/

/-- A child of an entry that is a member with a name, or is passed over. -/
def MemberInOrder (tag : Tag) : Prop :=
  ∃ kind, tag.localName = .ok kind
    ∧ (kind = memberElement → ∃ name : Name, name.text = tag.givenName)

/-- The local name of one of the children of an entry is missing, and those before it are in
order. -/
def MemberNameless (tags : List Tag) (text : String) : Prop :=
  ∃ before tag after, tags = before ++ tag :: after ∧ (∀ t ∈ before, MemberInOrder t)
    ∧ tag.localName = .error text

/-- An entry whose own tag is in order. -/
def EntryInOrder (tag : Tag) : Prop :=
  tag.localName = .ok entryElement ∧ (∃ name : Name, name.text = tag.givenName)
    ∧ tag.givenAbstract?.isSome = true

/-- An event at which a local name is asked for and missing. -/
inductive Nameless (p : Progress) : Event → String → Prop
  | root {tag : Tag} {text : String} (outside : p.depth = 0)
    (missing : tag.localName = .error text) :
      Nameless p (.starts tag) text
  | child {tag : Tag} {text : String} (within : p.depth = 2) (child : p.child = some tag)
      (missing : tag.localName = .error text) : Nameless p .ends text
  | member {tag : Tag} {text : String} (within : p.depth = 2) (child : p.child = some tag)
      (inOrder : EntryInOrder tag) (missing : MemberNameless p.members.reverse text) :
      Nameless p .ends text

theorem memberNameless_cons {tag : Tag} {rest : List Tag} {text : String} :
    MemberNameless (tag :: rest) text ↔
      tag.localName = .error text ∨ MemberInOrder tag ∧ MemberNameless rest text := by
  constructor
  · intro missing
    rcases missing with ⟨_ | ⟨first, before⟩, other, after, split, inOrder, missing⟩
    · cases split
      exact .inl missing
    · cases split
      obtain ⟨here, later⟩ := List.forall_mem_cons.mp inOrder
      exact .inr ⟨here, before, other, after, rfl, later, missing⟩
  · intro missing
    rcases missing with missing | ⟨here, before, other, after, split, later, missing⟩
    · exact ⟨[], tag, rest, rfl, nofun, missing⟩
    · exact ⟨tag :: before, other, after, by rw [split, List.cons_append],
        List.forall_mem_cons.mpr ⟨here, later⟩, missing⟩

/-- Members miss a local name where one of the children does. -/
theorem membersOf_nameless {owner : String} {tags : List Tag} {text : String} :
    (membersOf owner tags).outcome = .error (.badTagName text) ↔ MemberNameless tags text := by
  induction tags with
  | nil =>
    rw [membersOf, Logged.outcome_pure]
    constructor
    · intro failed
      cases failed
    · intro missing
      obtain ⟨before, _, _, split, _⟩ := missing
      simp at split
  | cons tag rest ih =>
    have next : ∀ kind,
        (if kind = memberElement then do
            let name ← nameOf kind tag
            let others ← membersOf owner rest
            return (name, tag.line) :: others
          else do
            Logged.note (.memberSkipped kind owner)
            membersOf owner rest).outcome = .error (.badTagName text) ↔
          (kind = memberElement → ∃ name : Name, name.text = tag.givenName)
            ∧ MemberNameless rest text := by
      intro kind
      by_cases member : kind = memberElement
      · rw [if_pos member, bind_nameless (nameOf_onlyRejects kind tag)]
        simp only [nameOf_ok, Logged.outcome_bind_eq_error, ih, Logged.outcome_pure, reduceCtorEq,
          and_false, exists_false, or_false, exists_and_right, member, forall_const]
      · rw [if_neg member, Logged.outcome_note_bind, ih]
        simp only [member, false_implies, true_and]
    rw [membersOf, localName_bind_nameless, memberNameless_cons]
    simp only [next, MemberInOrder, ← and_assoc, exists_and_right]

theorem entryOf_nameless {tag : Tag} {members : List Tag} {text : String} :
    (entryOf source tag members).outcome = .error (.badTagName text) ↔
      tag.localName = .error text ∨ EntryInOrder tag ∧ MemberNameless members text := by
  rw [entryOf, localName_bind_nameless]
  refine or_congr_right ⟨?_, ?_⟩
  · intro failed
    rcases failed with ⟨kind, told, failed⟩
    split at failed
    case isTrue entry =>
      subst entry
      rw [bind_nameless (nameOf_onlyRejects _ tag)] at failed
      obtain ⟨name, named, failed⟩ := failed
      rw [bind_nameless (abstractOf_onlyRejects tag)] at failed
      obtain ⟨isAbstract, marked, failed⟩ := failed
      rcases Logged.outcome_bind_eq_error.mp failed with missing | ⟨_, _, failed⟩
      · refine ⟨⟨told, ⟨name, nameOf_ok.mp named⟩, ?_⟩, membersOf_nameless.mp missing⟩
        rw [abstractOf_ok.mp marked]
        rfl
      · cases failed
    case isFalse => cases failed
  · intro given
    rcases given with ⟨⟨told, ⟨name, named⟩, marked⟩, missing⟩
    obtain ⟨isAbstract, marked⟩ := Option.isSome_iff_exists.mp marked
    refine ⟨_, told, ?_⟩
    rw [if_pos rfl, bind_nameless (nameOf_onlyRejects _ tag)]
    refine ⟨name, nameOf_ok.mpr named, ?_⟩
    rw [bind_nameless (abstractOf_onlyRejects tag)]
    refine ⟨isAbstract, abstractOf_ok.mpr marked, ?_⟩
    exact Logged.outcome_bind_eq_error.mpr (.inl (membersOf_nameless.mpr missing))

/-- The start of an element misses a local name when it is the start of the root. -/
theorem start_nameless {p : Progress} {tag : Tag} {text : String} :
    (start p tag).outcome = .error (.badTagName text) ↔ Nameless p (.starts tag) text := by
  have root : Nameless p (.starts tag) text ↔ p.depth = 0 ∧ tag.localName = .error text := by
    constructor
    · intro missing
      cases missing with
      | root outside missing => exact ⟨outside, missing⟩
    · exact fun both => .root both.1 both.2
  rw [root, start]
  split
  case h_1 outside =>
    rw [localName_bind_nameless]
    refine ⟨fun failed => ⟨outside, ?_⟩, fun given => .inl given.2⟩
    rcases failed with missing | ⟨kind, -, failed⟩
    · exact missing
    · split at failed <;> cases failed
  case h_2 deep => simp [deep]
  case h_3 deep => simp [deep]
  case h_4 outside _ _ =>
    refine ⟨fun failed => ?_, fun given => (outside given.1).elim⟩
    cases failed

/-- The end of an element misses a local name when it is the end of a child of the root. -/
theorem finish_nameless {p : Progress} {text : String} :
    (finish source p).outcome = .error (.badTagName text) ↔ Nameless p .ends text := by
  have child : Nameless p .ends text ↔ p.depth = 2 ∧ ∃ tag, p.child = some tag
      ∧ (tag.localName = .error text
        ∨ EntryInOrder tag ∧ MemberNameless p.members.reverse text) := by
    constructor
    · intro missing
      cases missing with
      | child within child missing => exact ⟨within, _, child, .inl missing⟩
      | member within child inOrder missing => exact ⟨within, _, child, .inr ⟨inOrder, missing⟩⟩
    · intro given
      rcases given with ⟨within, tag, child, missing | ⟨inOrder, missing⟩⟩
      · exact .child within child missing
      · exact .member within child inOrder missing
  rw [child, finish]
  split
  case h_1 tag within child =>
    rw [Logged.outcome_bind_eq_error, entryOf_nameless]
    constructor
    · intro failed
      rcases failed with missing | ⟨scanned, -, failed⟩
      · exact ⟨within, tag, child, missing⟩
      · split at failed
        · cases failed
        · split at failed <;> cases failed
    · intro given
      obtain ⟨-, tag', child', missing⟩ := given
      rw [child, Option.some.injEq] at child'
      exact .inl (child' ▸ missing)
  case h_2 depth apart =>
    constructor
    · intro failed
      cases failed
    · intro given
      obtain ⟨within, tag, child, -⟩ := given
      exact (apart tag within child).elim

/-- One step misses a local name exactly at such an event. -/
theorem step_nameless {p : Progress} {event : Event} {text : String} :
    (step source p event).outcome = .error (.badTagName text) ↔ Nameless p event text := by
  cases event with
  | declares label uri =>
    exact ⟨fun failed => (declare_onlyRejects p label uri text failed).elim, nofun⟩
  | starts tag => exact start_nameless
  | ends => exact finish_nameless

/-! ## Whole documents -/

/-- A document in which a local name is asked for and missing, and all is in order before. -/
def NamelessIn (source : String) (p : Progress) (events : List Event) (text : String) : Prop :=
  ∃ before event after q, events = before ++ event :: after
    ∧ (follow source p before).outcome = .ok q ∧ Nameless q event text

theorem follow_nameless {p : Progress} {events : List Event} {text : String} :
    (follow source p events).outcome = .error (.badTagName text)
      ↔ NamelessIn source p events text := by
  induction events generalizing p with
  | nil =>
    rw [follow, Logged.outcome_pure]
    exact ⟨nofun, fun ⟨before, _, _, _, split, _⟩ => by simp at split⟩
  | cons event rest ih =>
    rw [follow, Logged.outcome_bind_eq_error, step_nameless]
    constructor
    · intro failed
      rcases failed with missing | ⟨q, stepped, failed⟩
      · exact ⟨[], event, rest, p, rfl, rfl, missing⟩
      · obtain ⟨before, later, after, q', split, followed, missing⟩ := ih.mp failed
        refine ⟨event :: before, later, after, q', by rw [split, List.cons_append], ?_, missing⟩
        rw [follow, Logged.outcome_bind_eq_ok]
        exact ⟨q, stepped, followed⟩
    · intro given
      rcases given with ⟨_ | ⟨first, before⟩, later, after, q, split, followed, missing⟩
      · cases split
        cases followed
        exact .inl missing
      · cases split
        rw [follow, Logged.outcome_bind_eq_ok] at followed
        obtain ⟨q', stepped, followed⟩ := followed
        exact .inr ⟨q', stepped, ih.mpr ⟨before, later, after, q, rfl, followed, missing⟩⟩

/-- Reading misses a local name exactly where the document does not give one. -/
theorem ofContent_nameless {content : Content} {text : String} :
    (ofContent source content).outcome = .error (.badTagName text) ↔
      content.isEmpty = false ∧ NamelessIn source {} content.document.events text := by
  unfold ofContent
  cases content.isEmpty with
  | true => simp [reject, Logged.fail]
  | false =>
    rw [if_neg Bool.false_ne_true, ofDocument, Logged.outcome_bind_eq_error, follow_nameless]
    simp only [true_and]
    refine or_iff_left fun failed => ?_
    obtain ⟨p, -, failed⟩ := failed
    exact conclude_onlyRejects _ p text failed

/-! ## Trees -/

theorem not_memberNameless {tags : List Tag} (plain : ∀ tag ∈ tags, Plain tag)
    (legible : ∀ tag ∈ tags, tag.Legible) {text : String} : ¬ MemberNameless tags text := by
  intro missing
  obtain ⟨before, tag, after, split, -, missing⟩ := missing
  have inside : tag ∈ tags := split ▸ List.mem_append_right before (List.mem_cons_self ..)
  rw [localName_of_legible (plain tag inside) (legible tag inside)] at missing
  cases missing

theorem declareAll_onlyRejects (table : NamespaceTable) (declared : List (String × String)) :
    OnlyRejects (declareAll source table declared) := by
  induction declared generalizing table with
  | nil => exact .ok
  | cons binding rest ih => exact .bind (declareIn_onlyRejects _ _ _) fun table _ => ih table

theorem checkRoot_onlyRejects {tag : Tag} (plain : Plain tag) (legible : tag.Legible) :
    OnlyRejects (checkRoot tag) := by
  intro text failed
  rw [checkRoot, localName_bind_nameless, localName_of_legible plain legible] at failed
  rcases failed with failed | ⟨kind, -, failed⟩
  · cases failed
  · split at failed <;> cases failed

/-- A child of the root is scanned without missing a local name when its own can be told, and
those of its children if it is an entry. -/
theorem scanChild_onlyRejects {entries : List Entry} {node : Node} (plain : PlainEntry node)
    (legible : node.tag.Legible)
    (children : node.tag.text = entryElement → ∀ child ∈ node.children, child.tag.Legible) :
    OnlyRejects (scanChild source entries node) := by
  refine .bind ?_ fun scanned _ => ?_
  · intro text failed
    rw [entryOf_nameless, EntryInOrder, localName_of_legible plain.1 legible] at failed
    rcases failed with failed | ⟨⟨kind, -⟩, missing⟩
    · cases failed
    · refine not_memberNameless ?_ ?_ missing
      · exact List.forall_mem_map.mpr plain.2
      · exact List.forall_mem_map.mpr (children (Except.ok.inj kind))
  · split
    · exact .ok
    · split
      · exact .reject
      · exact .ok

theorem scanChildren_onlyRejects {table : NamespaceTable} {entries : List Entry}
    {nodes : List Node} (plain : ∀ node ∈ nodes, PlainEntry node)
    (legible : ∀ node ∈ nodes, node.tag.Legible)
    (children : ∀ node ∈ nodes, node.tag.text = entryElement →
      ∀ child ∈ node.children, child.tag.Legible) :
    OnlyRejects (scanChildren source table entries nodes) := by
  induction nodes generalizing table entries with
  | nil => exact .ok
  | cons node rest ih =>
    obtain ⟨plainNode, plainRest⟩ := List.forall_mem_cons.mp plain
    obtain ⟨legibleNode, legibleRest⟩ := List.forall_mem_cons.mp legible
    obtain ⟨childrenNode, childrenRest⟩ := List.forall_mem_cons.mp children
    refine .bind (declareAll_onlyRejects _ _) fun table _ => ?_
    refine .bind (scanChild_onlyRejects plainNode legibleNode childrenNode) fun entries _ => ?_
    exact ih plainRest legibleRest childrenRest

/-- The events of a tree are followed without missing a local name when those that are asked for
can be told. -/
theorem follow_root_onlyRejects {root : Node} (plain : PlainTree root) (legible : root.Legible) :
    OnlyRejects (follow source {} root.events) := by
  obtain ⟨rootLegible, legibles, children⟩ := legible_iff.mp legible
  rw [follow_root]
  refine .bind (declareAll_onlyRejects _ _) fun table _ => ?_
  refine .bind (checkRoot_onlyRejects (plain _ root.starts_mem_events) rootLegible) fun _ _ => ?_
  refine .bind (scanChildren_onlyRejects ?_ legibles ?_) fun _ _ => .ok
  · exact fun node inside => (plain.child inside).entry
  · exact fun node inside kind =>
      children node (List.mem_filter.mpr ⟨inside, by simpa using kind⟩)

/-- In a document that keeps the rules of XML a local name is missing only for a closing brace in
the namespace of an element whose name is asked for. -/
theorem exists_illegible {content : Content} (whole : content.document.wellFormed = true)
    {text : String} (missing : NamelessIn source {} content.document.events text) :
    ∃ root : Node, content.document.events = root.events
      ∧ ∃ tag ∈ root.inspected, '\x7d' ∈ tag.uri.toList := by
  obtain ⟨root, told, plain⟩ := exists_plain_root whole
  refine ⟨root, told, ?_⟩
  by_contra legible
  rw [told, ← follow_nameless] at missing
  refine follow_root_onlyRejects plain (fun tag inside brace => ?_) text missing
  exact legible ⟨tag, inside, brace⟩

end PrivilegeCatalog.Reading
