import PrivilegeCatalog.Proofs.Reading.Checks
import PrivilegeCatalog.Proofs.Reading.Faults

/-!
# Reading stops at the first fault

Each part of the reading stops with the first of the faults of its part of the tree, and goes on
when there is none (`StopsAt`). Parts one after another stop at the first fault of all
(`StopsAt.bind`), since a part is only read when there was no fault before it, and what it then
finds is known from what a successful reading gives. So a document that keeps the rules of XML is
read up to the first fault of its tree (`first_failing_check_is_reported`).
-/

namespace PrivilegeCatalog.Reading

open Vocabulary
open Xml (Content Node Tag contradicted? declarationFaults)

variable {source : String} {α β : Type}

/-! ## Work that stops -/

/-- The fault that work stops with, if it stops. -/
def stop? (work : Step α) : Option ReadFault :=
  match work.outcome with
  | .ok _ => none
  | .error fault => some fault

/-- Work stops at the first of some faults, and is done when there is none. -/
def StopsAt (work : Step α) (faults : List ReadFault) : Prop := stop? work = faults.head?

theorem stop?_eq_some {work : Step α} {fault : ReadFault} :
    stop? work = some fault ↔ work.outcome = .error fault := by
  unfold stop?
  cases work.outcome <;> simp

theorem stop?_eq_none {work : Step α} : stop? work = none ↔ ∃ a, work.outcome = .ok a := by
  unfold stop?
  cases work.outcome <;> simp

namespace StopsAt

theorem ok {notices : List Notice} {a : α} : StopsAt ⟨notices, .ok a⟩ [] := rfl

theorem error {notices : List Notice} {fault : ReadFault} {more : List ReadFault} :
    StopsAt (⟨notices, .error fault⟩ : Step α) (fault :: more) := rfl

/-- Work stops at the first fault of its two halves: the second half counts when the first is
done. -/
theorem bind {work : Step α} {next : α → Step β} {faults more : List ReadFault}
    (first : StopsAt work faults)
    (second : ∀ a, work.outcome = .ok a → StopsAt (next a) more) :
    StopsAt (work >>= next) (faults ++ more) := by
  rcases work with ⟨notices, fault | a⟩
  · cases faults with
    | nil => cases first
    | cons fault' others => exact first
  · cases faults with
    | nil => exact second a rfl
    | cons fault others => cases first

/-- Work that cannot go wrong after another piece of work. -/
theorem bind_ok {work : Step α} {next : α → Step β} {faults : List ReadFault}
    (first : StopsAt work faults) (second : ∀ a, work.outcome = .ok a → StopsAt (next a) []) :
    StopsAt (work >>= next) faults :=
  List.append_nil faults ▸ first.bind second

/-- Only the first fault counts. -/
theorem of_head {work : Step α} {faults more : List ReadFault} (first : StopsAt work faults)
    (same : faults.head? = more.head?) : StopsAt work more := first.trans same

/-- A remark stops nothing. -/
theorem note {n : Notice} {next : Unit → Step α} {faults : List ReadFault}
    (then_ : StopsAt (next ()) faults) : StopsAt (Logged.note n >>= next) faults := then_

end StopsAt

/-! ## Declarations -/

theorem find?_eq_some_of_only {p : α → Bool} {x : α} {xs : List α} (inside : x ∈ xs)
    (holds : p x = true) (only : ∀ a ∈ xs, p a = true → a = x) : xs.find? p = some x := by
  cases found : xs.find? p with
  | none => exact absurd holds (List.find?_eq_none.mp found x inside)
  | some a => rw [only a (List.mem_of_find?_eq_some found) (List.find?_some found)]

/-- Where a key is bound to one value, the first entry with the key and another value is the one
that the key is bound to. -/
theorem find?_other {entries : List α} {key value : α → String} {entry : String → α}
    {k v : String} {bound : Option String}
    (known : ∀ other, bound = some other ↔ entry other ∈ entries)
    (keyed : ∀ a, key a = k ↔ a = entry (value a))
    (valued : ∀ other, value (entry other) = other) :
    (entries.find? fun a => key a = k ∧ value a ≠ v)
      = bound.bind fun other => if other ≠ v then some (entry other) else none := by
  have bound_of_key : ∀ a ∈ entries, key a = k → bound = some (value a) := by
    intro a inside same
    rw [(keyed a).mp same] at inside
    exact (known _).mpr inside
  cases bound with
  | none =>
    rw [Option.bind_none, List.find?_eq_none]
    intro a inside holds
    cases bound_of_key a inside (of_decide_eq_true holds).1
  | some other =>
    have inside := (known other).mp rfl
    have same : key (entry other) = k := (keyed _).mpr (by rw [valued])
    rw [Option.bind_some]
    split_ifs with differs
    · refine find?_eq_some_of_only inside (by simp [same, valued, differs])
        fun a member holds => ?_
      have keyOf := (of_decide_eq_true holds).1
      rw [(keyed a).mp keyOf, Option.some.inj (bound_of_key a member keyOf)]
    · rw [List.find?_eq_none]
      intro a member holds
      obtain ⟨keyOf, apart⟩ := of_decide_eq_true holds
      have valueOf := Option.some.inj (bound_of_key a member keyOf)
      exact apart (valueOf.symm.trans (not_not.mp differs))

section

variable {declared : List (String × String)} {label uri : String}

theorem uriOf?_tableOf (h : OneToOne declared) :
    (tableOf declared).uriOf? label = some uri ↔ (label, uri) ∈ declared :=
  (NamespaceTable.uriOf?_ofPairs (oneToOne_eraseDups.mpr h)).trans List.mem_eraseDups

theorem labelOf?_tableOf (h : OneToOne declared) :
    (tableOf declared).labelOf? uri = some label ↔ (label, uri) ∈ declared :=
  (NamespaceTable.labelOf?_ofPairs (oneToOne_eraseDups.mpr h)).trans List.mem_eraseDups

/-- Another URI of the label is the one that the label is bound to. -/
theorem find?_label (h : OneToOne declared) :
    (declared.find? fun a => a.1 = label ∧ a.2 ≠ uri)
      = ((tableOf declared).uriOf? label).bind fun other =>
          if other ≠ uri then some (label, other) else none :=
  find?_other (fun _ => uriOf?_tableOf h)
    (fun _ => ⟨fun same => Prod.ext same rfl, fun made => congrArg Prod.fst made⟩) fun _ => rfl

/-- Another label of the URI is the one that the URI is bound to. -/
theorem find?_uri (h : OneToOne declared) :
    (declared.find? fun a => a.2 = uri ∧ a.1 ≠ label)
      = ((tableOf declared).labelOf? uri).bind fun other =>
          if other ≠ label then some (other, uri) else none :=
  find?_other (fun _ => labelOf?_tableOf h)
    (fun _ => ⟨fun same => Prod.ext rfl same, fun made => congrArg Prod.snd made⟩) fun _ => rfl

/-- A table finds the binding that a declaration contradicts. -/
theorem conflictWith?_tableOf (h : OneToOne declared) :
    (tableOf declared).conflictWith? label uri = contradicted? declared (label, uri) := by
  have ofUri : NamespaceTable.conflictWith?.conflictOfUri (tableOf declared) label uri
      = declared.find? fun a => a.2 = uri ∧ a.1 ≠ label := by
    rw [find?_uri h, NamespaceTable.conflictWith?.conflictOfUri]
    cases (tableOf declared).labelOf? uri <;> rfl
  rw [contradicted?, find?_label h, NamespaceTable.conflictWith?, ofUri]
  cases (tableOf declared).uriOf? label with
  | none => rfl
  | some other =>
    rw [Option.bind_some]
    dsimp only
    split_ifs <;> rfl

/-- A table takes a pair that contradicts none of its bindings, and refuses any other one for the
binding that it contradicts. -/
theorem answer_bind_tableOf (h : OneToOne declared) :
    ((tableOf declared).bind label uri).answer
      = match contradicted? declared (label, uri) with
        | some existing => .error (.conflict label uri existing)
        | none => .ok () := by
  have unfrozen : (tableOf declared).frozen = false := rfl
  rw [NamespaceTable.bind, unfrozen, if_neg Bool.false_ne_true, conflictWith?_tableOf h]
  cases contradicted? declared (label, uri) with
  | some existing => rfl
  | none =>
    dsimp only
    split_ifs <;> rfl

/-- A declaration stops the reading when it contradicts an earlier one. -/
theorem declareIn_stopsAt (h : OneToOne declared) :
    StopsAt (declareIn source (tableOf declared) label uri)
      ((Xml.conflictFaults declared (label, uri)).map .rejected) := by
  rw [declareIn, Xml.conflictFaults]
  split_ifs with default_
  · exact .note .ok
  · rw [NamespaceTable.Effect.logged, answer_bind_tableOf h]
    cases contradicted? declared (label, uri) with
    | some existing => exact .error
    | none => exact .ok

end

theorem declareAll_stopsAt {earlier declarations : List (String × String)}
    (h : OneToOne earlier) : StopsAt (declareAll source (tableOf earlier) declarations)
      (declarationFaults earlier declarations) := by
  induction declarations generalizing earlier with
  | nil => exact .ok
  | cons b rest ih =>
    obtain ⟨label, uri⟩ := b
    refine (declareIn_stopsAt h).bind fun table bound => ?_
    obtain ⟨oneToOne, rfl⟩ := (declareIn_ok h).mp bound
    exact ih oneToOne

/-! ## Tags -/

section

variable {tag : Tag}

theorem localName_stopsAt (plain : Plain tag) : StopsAt (localName tag) tag.namelessFaults := by
  rw [localName, Tag.namelessFaults]
  split_ifs with brace
  · have illegible : ¬ tag.Legible := not_not.mpr brace
    have missing : tag.localName = .error tag.writtenName := by
      rw [Tag.localName, isPlainName_of_brace (brace_of_not_legible illegible),
        if_neg Bool.false_ne_true]
    rw [missing]
    exact .error
  · rw [localName_of_legible plain brace]
    exact .ok

/-- Work that begins with a local name goes on with the text of the element. -/
theorem localName_bind_stopsAt (plain : Plain tag) {next : String → Step α}
    {faults : List ReadFault} (then_ : StopsAt (next tag.text) faults) :
    StopsAt (localName tag >>= next) (tag.namelessFaults ++ faults) := by
  refine (localName_stopsAt plain).bind fun kind told => ?_
  rw [← ((localName_ok plain).mp told).2]
  exact then_

theorem nameOf_stopsAt (element : String) :
    StopsAt (nameOf element tag) ((tag.nameFaults element).map .rejected) := by
  rw [nameOf, ← Tag.givenName, Tag.nameFaults]
  split_ifs with missing
  · exact .error
  · cases parsed : QualifiedName.ofText tag.givenName with
    | ok q =>
      have made : Name.ofText tag.givenName = .ok ⟨tag.givenName, by rw [parsed]; rfl⟩ :=
        Name.ofText_eq_ok.mpr rfl
      rw [made]
      exact .ok
    | error fault =>
      have made : Name.ofText tag.givenName = .error fault := by
        unfold Name.ofText
        split
        case h_1 q parsed' => cases parsed.symm.trans parsed'
        case h_2 fault' parsed' =>
          cases parsed.symm.trans parsed'
          rfl
      rw [made]
      exact .error

theorem abstractOf_stopsAt : StopsAt (abstractOf tag) (tag.abstractFaults.map .rejected) := by
  rw [abstractOf, Tag.abstractFaults]
  cases tag.attribute? abstractAttribute with
  | none => exact .ok
  | some value =>
    dsimp only
    cases truth? value with
    | none => exact .error
    | some b => exact .ok

theorem checkRoot_stopsAt (plain : Plain tag) :
    StopsAt (checkRoot tag) (tag.namelessFaults ++ tag.rootFaults.map .rejected) := by
  refine localName_bind_stopsAt plain ?_
  rw [Tag.rootFaults]
  split_ifs
  · exact .ok
  · exact .error

end

/-- The members of an entry are read up to the first child with a fault. -/
theorem membersOf_stopsAt {owner : String} {tags : List Tag} (plain : ∀ tag ∈ tags, Plain tag) :
    StopsAt (membersOf owner tags) (tags.flatMap Tag.memberFaults) := by
  induction tags with
  | nil => exact .ok
  | cons tag rest ih =>
    obtain ⟨plainTag, plains⟩ := List.forall_mem_cons.mp plain
    rw [List.flatMap_cons, Tag.memberFaults, List.append_assoc, membersOf]
    refine localName_bind_stopsAt plainTag ?_
    split_ifs with member
    · rw [member]
      refine (nameOf_stopsAt memberElement).bind fun name _ => ?_
      exact (ih plains).bind_ok fun others _ => .ok
    · exact .note (ih plains)

/-! ## Children of the root -/

/-- Entries that are known, with the tags that they were read from. -/
def Recorded (entries : List Entry) (seen : List Tag) : Prop :=
  entries.map (fun e => (e.name.text, e.line)) = seen.map nameAndLine

theorem recorded_nil : Recorded [] [] := rfl

/-- A name is looked for among the entries as it is among their tags. -/
theorem firstLine?_of_recorded {entries : List Entry} {seen : List Tag}
    (recorded : Recorded entries seen) (name : Name) :
    firstLine? entries name = (seen.find? (·.givenName = name.text)).map (·.line) := by
  induction entries generalizing seen with
  | nil =>
    rw [List.map_eq_nil_iff.mp recorded.symm]
    rfl
  | cons e rest ih =>
    obtain ⟨tag, others, rfl, same, later⟩ := List.map_eq_cons_iff.mp recorded.symm
    obtain ⟨text, line⟩ := Prod.mk.inj same
    have known := ih later.symm
    rw [firstLine?] at known ⊢
    rw [List.find?_cons, List.find?_cons, text]
    by_cases equal : e.name = name
    · rw [equal, beq_self_eq_true, decide_eq_true rfl, Option.map_some, Option.map_some, line]
    · have other : e.name.text ≠ name.text := fun text => equal (Name.eq_of_text text)
      rw [beq_eq_false_iff_ne.mpr equal, decide_eq_false other]
      exact known

theorem entryOf_stopsAt {node : Node} (plain : PlainEntry node) :
    StopsAt (entryOf source node.tag (node.children.map Node.tag))
      (node.tag.namelessFaults
        ++ if node.tag.text = entryElement then
            (node.tag.nameFaults entryElement).map .rejected
              ++ (node.tag.abstractFaults.map .rejected
                ++ (node.children.map Node.tag).flatMap Tag.memberFaults)
          else []) := by
  refine localName_bind_stopsAt plain.1 ?_
  split_ifs with kind
  · rw [kind]
    refine (nameOf_stopsAt entryElement).bind fun name _ => ?_
    refine abstractOf_stopsAt.bind fun isAbstract _ => ?_
    refine (membersOf_stopsAt ?_).bind_ok fun members _ => .ok
    exact List.forall_mem_map.mpr plain.2
  · exact .note .ok

/-- A child of the root is read up to its first fault. -/
theorem scanChild_stopsAt {node : Node} (plain : PlainEntry node) {entries : List Entry}
    {seen : List Tag} (recorded : Recorded entries seen) :
    StopsAt (scanChild source entries node) (node.childFaults seen) := by
  have shape : node.childFaults seen
      = (node.tag.namelessFaults
        ++ if node.tag.text = entryElement then
            (node.tag.nameFaults entryElement).map .rejected
              ++ (node.tag.abstractFaults.map .rejected
                ++ (node.children.map Node.tag).flatMap Tag.memberFaults)
          else [])
        ++ if node.tag.text = entryElement then (node.tag.repetitionFaults seen).map .rejected
          else [] := by
    rw [Node.childFaults]
    split_ifs <;> simp
  rw [shape]
  refine (entryOf_stopsAt plain).bind fun scanned read => ?_
  have given := ((entryOf_ok plain).mp read).2
  split_ifs at given ⊢ with kind
  · obtain ⟨e, rfl, made⟩ := given
    have repeated : firstLine? entries e.name
        = (seen.find? (·.givenName = node.tag.givenName)).map (·.line) := by
      rw [firstLine?_of_recorded recorded, made.name]
    dsimp only
    rw [repeated, Tag.repetitionFaults]
    cases seen.find? (·.givenName = node.tag.givenName) with
    | none => exact .ok
    | some earlier =>
      rw [made.name, made.line]
      exact .error
  · rw [given]
    exact .ok

theorem recorded_of_scanChild {node : Node} (plain : PlainEntry node)
    {entries entries' : List Entry} {seen : List Tag} (recorded : Recorded entries seen)
    (scanned : (scanChild source entries node).outcome = .ok entries') :
    Recorded entries' (node.seenAfter seen) := by
  have given := ((scanChild_ok plain).mp scanned).2
  rw [Node.seenAfter]
  split_ifs at given ⊢ with kind
  · obtain ⟨e, made, -, rfl⟩ := given
    rw [Recorded, List.map_cons, List.map_cons, recorded, made.name, made.line]
    rfl
  · exact given ▸ recorded

/-- The children of the root are read up to the first fault in them. -/
theorem scanChildren_stopsAt {nodes : List Node} (plain : ∀ node ∈ nodes, PlainEntry node)
    {earlier : List (String × String)} (h : OneToOne earlier) {entries : List Entry}
    {seen : List Tag} (recorded : Recorded entries seen) :
    StopsAt (scanChildren source (tableOf earlier) entries nodes)
      (Node.childrenFaults earlier seen nodes) := by
  induction nodes generalizing earlier entries seen with
  | nil => exact .ok
  | cons node rest ih =>
    obtain ⟨plainNode, plains⟩ := List.forall_mem_cons.mp plain
    refine (declareAll_stopsAt h).bind fun table bound => ?_
    obtain ⟨oneToOne, rfl⟩ := (declareAll_ok h).mp bound
    refine (scanChild_stopsAt plainNode recorded).bind fun entries' scanned => ?_
    exact ih plains oneToOne (recorded_of_scanChild plainNode recorded scanned)

/-! ## Labels -/

theorem unknownLabel?_cons (table : NamespaceTable) (name : Name) (line : Nat)
    (rest : List (Name × Nat)) :
    unknownLabel? table ((name, line) :: rest)
      = if table.hasLabel name.label then unknownLabel? table rest
        else some (.labelUnknown name.label name.text line) := by
  rw [unknownLabel?, unknownLabel?]
  cases known : table.hasLabel name.label <;> simp [known]

/-- The first label that is not bound is looked for among the names as it is among their tags. -/
theorem unknownLabel?_of_tags {bindings : List (String × String)} {names : List (Name × Nat)}
    {tags : List Tag} (same : names.map (fun n => (n.1.text, n.2)) = tags.map nameAndLine) :
    unknownLabel? (NamespaceTable.ofPairs bindings) names
      = (tags.flatMap (Tag.labelFaults bindings)).head? := by
  induction names generalizing tags with
  | nil =>
    rw [List.map_eq_nil_iff.mp same.symm]
    rfl
  | cons named rest ih =>
    obtain ⟨name, line⟩ := named
    obtain ⟨tag, others, rfl, first, later⟩ := List.map_eq_cons_iff.mp same.symm
    obtain ⟨text, line_⟩ := Prod.mk.inj first
    have known := ih later.symm
    have parsed : QualifiedName.ofText tag.givenName = .ok name.parts := by
      rw [text, name.ofText_parts]
    have bound : (NamespaceTable.ofPairs bindings).hasLabel name.label
        = bindings.any (·.1 = name.parts.label) := by
      rw [Bool.eq_iff_iff, NamespaceTable.hasLabel_ofPairs, List.any_eq_true]
      simp [Name.label]
    rw [unknownLabel?_cons, bound, List.flatMap_cons, Tag.labelFaults, parsed]
    dsimp only
    split_ifs
    · exact known
    · rw [text, line_]
      rfl

/-- The names of entries are those of their tags, in the same order. -/
theorem names_of_tags {root : Node} {new : List Entry}
    (given : List.Forall₂ EntryOf root.entries new) :
    (new.flatMap (·.names)).map (fun n => (n.1.text, n.2)) = root.named.map nameAndLine := by
  rw [Node.named]
  generalize root.entries = nodes at given
  induction given with
  | nil => rfl
  | cons first _ ih =>
    rw [List.flatMap_cons, List.flatMap_cons, List.map_append, List.map_append, ih, first.names]

theorem resolve_stopsAt {table : NamespaceTable} {entries : List Entry} :
    StopsAt (Logged.ofExcept ((resolve table entries).mapError .rejected))
      ((unknownLabel? table (entries.flatMap (·.names))).toList.map .rejected) := by
  rw [resolve]
  cases unknownLabel? table (entries.flatMap (·.names)) with
  | none => exact .ok
  | some r => exact .error

/-- After the last event the reading stops at the first label that is not bound. -/
theorem conclude_stopsAt {root : Node} (h : OneToOne root.namespaces) {new : List Entry}
    (given : List.Forall₂ EntryOf root.entries new) :
    StopsAt (conclude source true { table := tableOf root.namespaces, entries := new.reverse })
      ((root.named.flatMap (Tag.labelFaults root.bindings)).map .rejected) := by
  have defaults : StopsAt (((tableOf root.namespaces).addDefaults wellKnown).logged.mapError
      fun fault => ReadFault.rejected (.conflict fault)) [] :=
    stop?_eq_none.mpr ⟨_, outcome_addDefaults h _⟩
  have unknown := @unknownLabel?_of_tags root.bindings _ _ (names_of_tags given)
  rw [conclude, if_pos rfl]
  refine defaults.bind fun table done => ?_
  cases (outcome_addDefaults h _).symm.trans done
  refine StopsAt.bind_ok (resolve_stopsAt.of_head ?_) fun privileges _ => .note .ok
  rw [List.reverse_reverse, List.head?_map, Option.head?_toList, List.head?_map, ← unknown]
  rfl

/-! ## Whole trees -/

/-- The events of a tree are followed up to its first fault. -/
theorem follow_root_stopsAt {root : Node} (plain : PlainTree root) :
    StopsAt (follow source {} root.events) root.walkFaults := by
  have plainChildren : ∀ node ∈ root.children, PlainEntry node :=
    fun node inside => (plain.child inside).entry
  rw [follow_root, Node.walkFaults]
  have first := @declareAll_stopsAt source [] root.declared OneToOne.nil
  refine first.bind fun table bound => ?_
  obtain ⟨oneToOne, rfl⟩ := (declareAll_ok OneToOne.nil).mp bound
  refine (checkRoot_stopsAt (plain _ root.starts_mem_events)).bind fun _ _ => ?_
  exact (scanChildren_stopsAt plainChildren oneToOne recorded_nil).bind_ok fun scanned _ => .ok

/-- A tree that keeps the rules of XML is read up to its first fault. -/
theorem ofDocument_stopsAt {root : Node} (plain : PlainTree root) :
    StopsAt (ofDocument source ⟨root.events, true⟩) root.faults := by
  refine (follow_root_stopsAt plain).bind fun p followed => ?_
  obtain ⟨-, -, oneToOne, new, given, rfl⟩ := (follow_root_ok plain).mp followed
  exact conclude_stopsAt oneToOne given.entries

/-! ## Documents -/

/-- A document that keeps the rules of XML is read up to the first fault of its tree. -/
theorem ofContent_stopsAt {content : Content} (whole : content.document.wellFormed = true)
    {root : Node} (told : content.document.events = root.events) :
    StopsAt (ofContent source content) root.faults := by
  have document : content.document = ⟨root.events, true⟩ := by
    rw [← told, ← whole]
  rw [ofContent, Content.not_isEmpty_of_wellFormed whole, if_neg Bool.false_ne_true, document]
  exact ofDocument_stopsAt (plainTree_of_told whole told)

/-- If the first fault is a check that fails, it is the first check that does. -/
theorem head?_rejections {root : Node} {r : Rejection}
    (first : root.faults.head? = some (.rejected r)) : root.rejections.head? = some r := by
  obtain ⟨more, same⟩ := List.head?_eq_some_iff.mp first
  rw [Node.rejections, same]
  rfl

/-- If the first fault is no missing name, it is the first check that fails. -/
theorem head?_faults {root : Node} (named : ∀ text, root.faults.head? ≠ some (.badTagName text))
    {r : Rejection} (first : root.rejections.head? = some r) :
    root.faults.head? = some (.rejected r) := by
  rw [Node.rejections] at first
  cases faults : root.faults with
  | nil =>
    rw [faults] at first
    cases first
  | cons fault more =>
    rw [faults] at named first
    cases fault with
    | rejected r' =>
      cases first
      rfl
    | badTagName text => exact absurd rfl (named text)

/-- In a tree whose local names can be told the first fault is no missing name. -/
theorem head?_ne_badTagName {content : Content} (whole : content.document.wellFormed = true)
    {root : Node} (told : content.document.events = root.events) (legible : root.Legible)
    (text : String) : root.faults.head? ≠ some (.badTagName text) := by
  intro first
  have failed : (ofContent "" content).outcome = .error (.badTagName text) :=
    stop?_eq_some.mp ((ofContent_stopsAt whole told).trans first)
  have missing := (ofContent_nameless.mp failed).2
  rw [told, ← follow_nameless] at missing
  exact follow_root_onlyRejects (plainTree_of_told whole told) legible text missing

/-- A rejection is reported in its document, on its line if it has one. -/
theorem location_failure (r : Rejection) :
    (r.failure source).location = some ⟨source, r.line?.map Int.ofNat, none⟩ := by
  cases r <;> rfl

/-- Only a repeated name breaks a rule about content. -/
theorem kind_failure (r : Rejection) :
    (r.failure source).kind = .validation
      ↔ ∃ name first line, r = .nameRepeated name first line := by
  constructor
  · intro validation
    cases r with
    | nameRepeated name first line => exact ⟨name, first, line, rfl⟩
    | _ => cases validation
  · rintro ⟨name, first, line, rfl⟩
    rfl

/-- A document that keeps the rules of XML is read up to the first fault of its tree. Reading
rejects it for the first check that fails, whenever it rejects it; and when each local name that
is asked for can be told, it does so as soon as a check fails. A conflict of declarations is
reported without a line, any other check on the line of a start tag, and only a repeated name as a
breach of a rule about content. -/
theorem first_failing_check_is_reported (source : String) (content : Content)
    (whole : content.document.wellFormed = true) :
    (∃ root : Node, content.document.events = root.events) ∧
      ∀ root : Node, content.document.events = root.events →
        (∀ fault, (ofContent source content).outcome = .error fault
            ↔ root.faults.head? = some fault)
          ∧ (∀ r, (ofContent source content).outcome = .error (.rejected r) →
            root.rejections.head? = some r)
          ∧ (root.Legible → ∀ fault, (ofContent source content).outcome = .error fault
            ↔ ∃ r, root.rejections.head? = some r ∧ fault = .rejected r)
          ∧ ∀ r ∈ root.rejections,
            ((∃ fault, r = .conflict fault
                ∧ (r.failure source).location = some ⟨source, none, none⟩)
              ∨ ∃ tag, .starts tag ∈ root.events
                ∧ (r.failure source).location = some ⟨source, some (Int.ofNat tag.line), none⟩)
            ∧ ((r.failure source).kind = .validation
              ↔ ∃ name first line, r = .nameRepeated name first line) := by
  obtain ⟨root, told, -⟩ := exists_plain_root whole
  refine ⟨⟨root, told⟩, fun root told => ?_⟩
  have stops : ∀ fault, (ofContent source content).outcome = .error fault
      ↔ root.faults.head? = some fault := by
    intro fault
    rw [← stop?_eq_some, ofContent_stopsAt whole told]
  refine ⟨stops, fun r failed => head?_rejections ((stops _).mp failed), fun legible fault => ?_,
    fun r inside => ⟨?_, kind_failure r⟩⟩
  · have named := head?_ne_badTagName whole told legible
    rw [stops]
    constructor
    · intro first
      cases fault with
      | rejected r => exact ⟨r, head?_rejections first, rfl⟩
      | badTagName text => exact absurd first (named text)
    · rintro ⟨r, first, rfl⟩
      exact head?_faults named first
  · rw [location_failure]
    rcases Node.onLineOf_rejections inside with ⟨fault, rfl⟩ | ⟨tag, starts, line⟩
    · exact .inl ⟨fault, rfl, rfl⟩
    · refine .inr ⟨tag, starts, ?_⟩
      rw [line]
      rfl

/-- A document with faults of several kinds is rejected for the name that is repeated: the
privilege before it is in order, and the declarations that contradict one another come later. -/
theorem repetition_comes_first :
    let content := Content.text ("<privileges>\n<privilege name='a'/>\n<privilege name='a'/>\n"
      ++ "<privilege abstract='no'/>\n<o xmlns:p='x'><q xmlns:p='y'/></o></privileges>")
    content.document.wellFormed = true
      ∧ (ofContent "" content).outcome = .error (.rejected (.nameRepeated "a" 2 3)) := by
  intro content
  let root : Node := .mk [] ⟨"", "privileges", 1, []⟩
    [.mk [] ⟨"", "privilege", 2, [("name", "a")]⟩ [],
      .mk [] ⟨"", "privilege", 3, [("name", "a")]⟩ [],
      .mk [] ⟨"", "privilege", 4, [("abstract", "no")]⟩ [],
      .mk [("p", "x")] ⟨"", "o", 5, []⟩ [.mk [("p", "y")] ⟨"", "q", 5, []⟩ []]]
  have document : content.document = ⟨root.events, true⟩ := by decide +kernel
  have whole : content.document.wellFormed = true := by rw [document]
  have told : content.document.events = root.events := by rw [document]
  have first : root.faults.head? = some (.rejected (.nameRepeated "a" 2 3)) := by decide +kernel
  exact ⟨whole, (((first_failing_check_is_reported "" content whole).2 root told).1 _).mpr first⟩

/-- A document in which the first check to fail is the name of a privilege, and that is not
rejected for it: the address of the host in a namespace that is passed over before holds a closing
brace. -/
theorem bracketed_host_comes_first :
    ∃ (content : Content) (root : Node), content.document.wellFormed = true
      ∧ content.document.events = root.events
      ∧ root.rejections.head? = some (.nameMissing "privilege" 1)
      ∧ (ofContent "" content).outcome = .error (.badTagName "]/\x7dnote") := by
  let content := Content.text
    "<privileges><p:note xmlns:p=\"http://[\x7d]/\"/><privilege/></privileges>"
  let root : Node := .mk [] ⟨"", "privileges", 1, []⟩
    [.mk [("p", "http://[\x7d]/")] ⟨"http://[\x7d]/", "note", 1, []⟩ [],
      .mk [] ⟨"", "privilege", 1, []⟩ []]
  have document : content.document = ⟨root.events, true⟩ := by decide +kernel
  have whole : content.document.wellFormed = true := by rw [document]
  have told : content.document.events = root.events := by rw [document]
  have check : root.rejections.head? = some (.nameMissing "privilege" 1) := by decide +kernel
  have first : root.faults.head? = some (.badTagName "]/\x7dnote") := by decide +kernel
  exact ⟨content, root, whole, told, check,
    stop?_eq_some.mp ((ofContent_stopsAt whole told).trans first)⟩

end PrivilegeCatalog.Reading
