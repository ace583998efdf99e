import PrivilegeCatalog.Proofs.Names
import PrivilegeCatalog.Proofs.Reading.Documents
import PrivilegeCatalog.Proofs.Xml.Declarations

/-!
# What is known of a catalog that was read

A catalog that was read has names without blanks at their ends, all of them different and under
labels that are bound, and a table with the well-known bindings filled in (`Accepted`). Its texts
may all stand in a document. When the type of the document gives no declarations by default, its
bindings keep the rules of XML (`orderly_of_silent`).
-/

namespace PrivilegeCatalog.Reading

open Xml (Content Node Tag XmlChars)

/-- A binding that keeps the rules of XML, or one that stands in no document because it is always
there. -/
def Orderly (b : String × String) : Prop :=
  b = ("", "") ∨ b = (xmlLabel, xmlUri) ∨ Xml.Permitted b

instance (b : String × String) : Decidable (Orderly b) :=
  inferInstanceAs (Decidable (_ ∨ _ ∨ _))

/-- What is known of a catalog that was read. -/
structure Accepted (catalog : Catalog) : Prop where
  texts : ∀ p ∈ catalog.privileges, ∀ name ∈ p.names, XmlChars name.text.toList
    ∧ ∀ c, name.text.toList.getLast? = some c → Text.isBlank c = false
  distinct : (catalog.privileges.map (·.name)).Nodup
  labels : ∀ p ∈ catalog.privileges, ∀ name ∈ p.names,
    ∃ uri, (name.label, uri) ∈ catalog.namespaces.bindings
  table : catalog.namespaces = (NamespaceTable.ofPairs catalog.namespaces.bindings).freeze
  oneToOne : OneToOne catalog.namespaces.bindings
  once : catalog.namespaces.bindings.Nodup
  uris : ∀ b ∈ catalog.namespaces.bindings, XmlChars b.2.toList
  filled : ∀ b ∈ wellKnown, b ∈ catalog.namespaces.bindings
    ∨ ∃ a ∈ catalog.namespaces.bindings, a.1 = b.1 ∨ a.2 = b.2

namespace Accepted

variable {catalog : Catalog}

/-- No label is bound twice. -/
theorem keys (accepted : Accepted catalog) : (catalog.namespaces.bindings.map Prod.fst).Nodup :=
  accepted.oneToOne.nodup_keys accepted.once

theorem uriOf?_iff (accepted : Accepted catalog) {label uri : String} :
    catalog.namespaces.uriOf? label = some uri ↔ (label, uri) ∈ catalog.namespaces.bindings := by
  rw [accepted.table]
  exact NamespaceTable.uriOf?_ofPairs accepted.oneToOne

end Accepted

variable {source : String} {content : Content} {catalog : Catalog} {root : Node}

/-! ## Names and values -/

/-- What is cut out of a text is part of it. -/
theorem trim_subset (s : String) : (Text.trim s).toList ⊆ s.toList := by
  intro c inside
  rw [Text.trim, String.toList_ofList, Text.trimBy, List.mem_reverse] at inside
  exact List.dropWhile_subset _ (List.mem_reverse.mp (List.dropWhile_subset _ inside))

/-- A name is a text when all values in the document are. -/
theorem xmlChars_givenName {tag : Tag} (values : ∀ a ∈ tag.attributes, XmlChars a.2.toList) :
    XmlChars tag.givenName.toList := by
  refine XmlChars.of_subset ?_ (trim_subset _)
  rw [Tag.attribute?]
  cases found : tag.attributes.lookup Vocabulary.nameAttribute with
  | none => exact .nil
  | some value => exact values (_, value) (Xml.mem_of_lookup found)

/-- The names in a catalog are those that are given in the document. -/
theorem exists_named_of_privilege (denotes : catalog.Denotes root) {p : Privilege}
    (inside : p ∈ catalog.privileges) {name : Name} (named : name ∈ p.names) :
    ∃ tag ∈ root.named, tag.givenName = name.text := by
  have told : p.texts ∈ root.privilegeTexts := by
    rw [← denotes.privileges]
    exact List.mem_map_of_mem inside
  obtain ⟨entry, within, same⟩ := List.mem_map.mp told
  simp only [Privilege.texts, Prod.mk.injEq] at same
  obtain ⟨own, -, members⟩ := same
  rcases List.mem_cons.mp named with first | member
  · rw [first]
    exact ⟨entry.tag, mem_named.mpr ⟨entry, within, List.mem_cons_self ..⟩, own⟩
  · have text : name.text ∈ p.members.map (·.text) := List.mem_map_of_mem member
    rw [← members] at text
    obtain ⟨node, inNode, equal⟩ := List.mem_map.mp text
    have inTags : node.tag ∈ entry.tag :: entry.members.map Node.tag :=
      List.mem_cons_of_mem _ (List.mem_map_of_mem inNode)
    exact ⟨node.tag, mem_named.mpr ⟨entry, within, inTags⟩, equal⟩

/-- No name is given to two privileges. -/
theorem distinct_of_denotes (denotes : catalog.Denotes root) (readable : root.Readable) :
    (catalog.privileges.map (·.name)).Nodup := by
  have texts := congrArg (List.map Prod.fst) denotes.privileges
  rw [Node.privilegeTexts, List.map_map, List.map_map] at texts
  have names : (catalog.privileges.map (·.name)).map Name.text
      = root.entries.map (·.tag.givenName) := by
    rw [List.map_map]
    exact texts
  have distinct := readable.distinct
  rw [← names] at distinct
  exact distinct.of_map _

/-- A tag that has to be given a name is told. -/
theorem starts_of_named {tag : Tag} (named : tag ∈ root.named) : .starts tag ∈ root.events := by
  obtain ⟨entry, inside, within⟩ := mem_named.mp named
  have entryInside : entry ∈ root.children := (List.mem_filter.mp inside).1
  rcases List.mem_cons.mp within with same | member
  · rw [same]
    exact Node.events_subset_of_child entryInside entry.starts_mem_events
  · obtain ⟨node, inNode, same⟩ := List.mem_map.mp member
    have nodeInside : node ∈ entry.children := (List.mem_filter.mp inNode).1
    rw [← same]
    exact Node.events_subset_of_child entryInside
      (Node.events_subset_of_child nodeInside node.starts_mem_events)

/-! ## Bindings -/

theorem nodup_completed (declared : List (String × String)) : (completed declared).Nodup := by
  refine (nodup_eraseDups declared).append (NamespaceTable.nodup_wellKnown.filter _) ?_
  intro b inside free
  have apart := NamespaceTable.isFree_eq_true.mp (List.mem_filter.mp free).2
  exact (apart b (List.mem_eraseDups.mp inside)).1 rfl

theorem bindings_of_denotes (denotes : catalog.Denotes root) :
    catalog.namespaces.bindings = completed root.namespaces := by
  rw [denotes.namespaces]
  rfl

/-- The empty label stands for no namespace. -/
theorem eq_of_empty_label (denotes : catalog.Denotes root) {b : String × String}
    (bound : b ∈ catalog.namespaces.bindings) (empty : b.1 = "") : b = ("", "") := by
  rw [bindings_of_denotes denotes] at bound
  rcases mem_completed.mp bound with declared | ⟨known, -⟩
  · exact (of_decide_eq_true (List.mem_filter.mp declared).2 empty).elim
  · have only : ∀ a ∈ wellKnown, a.1 = "" → a = ("", "") := by decide
    exact only b known empty

/-- The labels of a catalog are bound. -/
theorem labels_of_denotes (denotes : catalog.Denotes root) (readable : root.Readable)
    {p : Privilege} (inside : p ∈ catalog.privileges) {name : Name} (named : name ∈ p.names) :
    ∃ uri, (name.label, uri) ∈ catalog.namespaces.bindings := by
  obtain ⟨tag, inTag, text⟩ := exists_named_of_privilege denotes inside named
  have parsed : QualifiedName.ofText tag.givenName = .ok name.parts := by
    rw [text, name.ofText_parts]
  rw [bindings_of_denotes denotes]
  exact readable.labels tag inTag name.parts parsed

/-- A well-known binding is there, or another one has half of it. -/
theorem filled_completed (declared : List (String × String)) {b : String × String}
    (known : b ∈ wellKnown) :
    b ∈ completed declared ∨ ∃ a ∈ completed declared, a.1 = b.1 ∨ a.2 = b.2 := by
  by_cases free : ∀ a ∈ declared, a.1 ≠ b.1 ∧ a.2 ≠ b.2
  · exact .inl (mem_completed.mpr (.inr ⟨known, free⟩))
  · simp only [not_forall] at free
    obtain ⟨a, inside, half⟩ := free
    refine .inr ⟨a, mem_completed.mpr (.inl inside), ?_⟩
    rw [not_and_or, not_not, not_not] at half
    exact half

/-! ## Documents -/

/-- The type of a document, as far as it has one. -/
def typeOf (content : Content) : Xml.Doctype := (Xml.Scan.ofChars content.decoded.chars).type

/-- Only a document that keeps the rules of XML is read. -/
theorem wellFormed_of_read (read : (ofContent source content).outcome = .ok catalog) :
    content.document.wellFormed = true := by
  unfold ofContent at read
  split at read
  case isTrue => cases read
  case isFalse =>
    unfold ofDocument at read
    obtain ⟨p, -, concluded⟩ := Logged.outcome_bind_eq_ok.mp read
    unfold conclude at concluded
    split at concluded
    case isTrue whole => exact whole
    case isFalse => cases concluded

/-- What is read comes from a tree. -/
theorem exists_root_of_read (read : (ofContent source content).outcome = .ok catalog) :
    ∃ root : Node,
      content.document.events = root.events ∧ root.Readable ∧ catalog.Denotes root := by
  have whole := wellFormed_of_read read
  obtain ⟨root, told, -⟩ := exists_plain_root whole
  obtain ⟨-, readable, denotes⟩ := (ofContent_ok whole told).mp read
  exact ⟨root, told, readable, denotes⟩

/-- Under whatever name, a document is read as the same catalog. -/
theorem read_under (source' : String) (read : (ofContent source content).outcome = .ok catalog) :
    (ofContent source' content).outcome = .ok catalog := by
  have whole := wellFormed_of_read read
  obtain ⟨root, told, -⟩ := exists_plain_root whole
  exact (ofContent_ok whole told).mpr ((ofContent_ok whole told).mp read)

/-- What a document that was read has told is in order. -/
theorem told_of_read (read : (ofContent source content).outcome = .ok catalog) :
    Xml.Scan.Told (Xml.Scan.ofChars content.decoded.chars)
      ∧ (Xml.Scan.ofChars content.decoded.chars).sound = true := by
  have whole := wellFormed_of_read read
  exact Xml.Scan.told_of_whole (Bool.and_eq_true_iff.mp whole).1

/-- The namespaces of a document are declared in it under a label. -/
theorem declares_of_namespaces {b : String × String} (inside : b ∈ root.namespaces) :
    .declares b.1 b.2 ∈ root.events ∧ b.1 ≠ "" := by
  obtain ⟨declared, named⟩ := List.mem_filter.mp inside
  exact ⟨Node.declares_mem_events root declared, of_decide_eq_true named⟩

/-- A catalog that was read is in order. -/
theorem accepted_of_read (read : (ofContent source content).outcome = .ok catalog) :
    Accepted catalog := by
  obtain ⟨told, -⟩ := told_of_read read
  obtain ⟨root, events, readable, denotes⟩ := exists_root_of_read read
  have bindings := bindings_of_denotes denotes
  have inEvents : ∀ event ∈ root.events,
      event ∈ (Xml.Scan.ofChars content.decoded.chars).events := by
    intro event inside
    rw [← events] at inside
    exact List.mem_reverse.mp inside
  refine ⟨?_, distinct_of_denotes denotes readable,
    fun p inside name named => labels_of_denotes denotes readable inside named, ?_, ?_, ?_, ?_,
      ?_⟩
  · intro p inside name named
    obtain ⟨tag, inTag, text⟩ := exists_named_of_privilege denotes inside named
    have values := told.values tag (inEvents _ (starts_of_named inTag))
    rw [← text]
    exact ⟨xmlChars_givenName values, fun c last => Text.not_blank_of_getLast?_trim last⟩
  · rw [bindings, denotes.namespaces]
    rfl
  · rw [bindings]
    exact oneToOne_completed readable.namespaces
  · rw [bindings]
    exact nodup_completed root.namespaces
  · intro b inside
    rw [bindings] at inside
    rcases mem_completed.mp inside with declared | ⟨known, -⟩
    · exact told.uris b.1 b.2 (inEvents _ (declares_of_namespaces declared).1)
    · have texts : ∀ a ∈ wellKnown, Xml.isXmlText a.2 = true := by decide
      exact List.all_eq_true.mp (texts b known)
  · intro b known
    rw [bindings]
    exact filled_completed root.namespaces known

theorem orderly_wellKnown : ∀ b ∈ wellKnown, Orderly b := by decide +kernel

/-- Without declarations by default the bindings of a catalog keep the rules of XML. -/
theorem orderly_of_silent (read : (ofContent source content).outcome = .ok catalog)
    (silent : (typeOf content).Silent) : ∀ b ∈ catalog.namespaces.bindings, Orderly b := by
  obtain ⟨told, sound⟩ := told_of_read read
  obtain ⟨root, events, -, denotes⟩ := exists_root_of_read read
  intro b inside
  rw [bindings_of_denotes denotes] at inside
  rcases mem_completed.mp inside with declared | ⟨known, -⟩
  · obtain ⟨declares, named⟩ := declares_of_namespaces declared
    rw [← events] at declares
    rcases told.permitted sound b.1 b.2 (List.mem_reverse.mp declares)
      named with permitted | given
    · exact .inr (.inr permitted)
    · obtain ⟨element, a, held, gives, -⟩ := given
      rw [silent element a held] at gives
      cases gives
  · exact orderly_wellKnown b known

end PrivilegeCatalog.Reading
