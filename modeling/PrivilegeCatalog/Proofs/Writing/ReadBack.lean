import PrivilegeCatalog.Proofs.Names.Grammar
import PrivilegeCatalog.Proofs.Reading.Documents
import PrivilegeCatalog.Proofs.Writing.Bytes
import PrivilegeCatalog.Proofs.Writing.Meaning

/-!
# What can be read back

Privileges and bindings that have been written are read back as they were exactly when `ReadsBack`
holds of them (`written_reads_back_iff`). Each of its conditions is a check of the reader that the
writer leaves out: it writes names with a final line feed, names twice, labels without a binding,
and bindings that no document may declare. The table that is read back holds the bindings that
were declared and those of the well-known ones that they leave free.
-/

namespace PrivilegeCatalog.Writing

open Xml (Content Node)

/-- A well-known binding that is not written over: neither half of it is declared. -/
structure IsFreeIn (namespaces : Dictionary) (b : String × String) : Prop where
  known : b ∈ wellKnown
  apart : ∀ a, IsDeclaredIn namespaces a → a.1 ≠ b.1 ∧ a.2 ≠ b.2

/-- Privileges and a mapping that are the same after they have been written and read. -/
structure ReadsBack (privileges : List Privilege) (namespaces : Dictionary) : Prop where
  blanks : ∀ p ∈ privileges, ∀ name ∈ p.names, ∀ c ∈ name.text.toList, Text.isBlank c = false
  distinct : (privileges.map (·.name)).Nodup
  uris : ∀ a b, IsDeclaredIn namespaces a → IsDeclaredIn namespaces b → a.2 = b.2 → a = b
  reserved : ∀ b, IsDeclaredIn namespaces b →
    b.1 ≠ Xml.declarationLabel ∧ b.2 ≠ Xml.reservedUri ∧ b.2 ≠ Xml.declarationUri
  labels : ∀ p ∈ privileges, ∀ name ∈ p.names, name.label = "" ∨ name.label = xmlLabel
    ∨ ∃ uri, IsDeclaredIn namespaces (name.label, uri) ∨ IsFreeIn namespaces (name.label, uri)

section

variable {privileges : List Privilege} {namespaces : Dictionary} {source : String}
  {layout : Layout} {bytes : Bytes} {root : Node}

/-! ## Bindings -/

theorem isOpen_iff {b : String × String} :
    Xml.isOpen b = true ↔
      b.1 ≠ Xml.declarationLabel ∧ b.2 ≠ Xml.reservedUri ∧ b.2 ≠ Xml.declarationUri := by
  simp [Xml.isOpen, and_assoc]

/-- XML leaves all declared bindings to documents. -/
theorem all_isOpen_iff : (declared namespaces).all Xml.isOpen = true ↔
    ∀ b, IsDeclaredIn namespaces b →
      b.1 ≠ Xml.declarationLabel ∧ b.2 ≠ Xml.reservedUri ∧ b.2 ≠ Xml.declarationUri := by
  simp only [List.all_eq_true, mem_declared_iff, isOpen_iff]

theorem openBindings_of_all (all : (declared namespaces).all Xml.isOpen = true) :
    openBindings namespaces = declared namespaces :=
  List.filter_eq_self.mpr (List.all_eq_true.mp all)

/-- The empty label stands for no namespace, whatever is declared. -/
theorem isFreeIn_empty (namespaces : Dictionary) : IsFreeIn namespaces ("", "") :=
  ⟨by decide, fun _ declared => ⟨declared.label.1, declared.uri⟩⟩

/-- The label of XML stands for its namespace when XML leaves all declared bindings to
documents. -/
theorem isFreeIn_xml (opens : ∀ b, IsDeclaredIn namespaces b → Xml.isOpen b = true) :
    IsFreeIn namespaces (xmlLabel, xmlUri) := by
  refine ⟨by decide, fun a declared => ⟨declared.label.2, ?_⟩⟩
  exact (isOpen_iff.mp (opens a declared)).2.1

/-- The namespaces of a written document are the declared bindings, when XML leaves all of them to
documents. -/
theorem namespaces_eq (meaning : RootMeaning privileges (openBindings namespaces) root)
    (all : (declared namespaces).all Xml.isOpen = true) :
    root.namespaces = declared namespaces := by
  rw [Node.namespaces, meaning.declarations, openBindings_of_all all, List.filter_eq_self]
  intro b inside
  exact decide_eq_true (mem_declared_iff.mp inside).label.1

/-- Declared bindings are one-to-one when no two of them share a namespace. -/
theorem oneToOne_declared (keys : (namespaces.map Prod.fst).Nodup) :
    OneToOne (declared namespaces) ↔
      ∀ a b, IsDeclaredIn namespaces a → IsDeclaredIn namespaces b → a.2 = b.2 → a = b := by
  have distinct := nodup_declared keys
  constructor
  · intro oneToOne a b first second same
    have agree := oneToOne a (mem_declared_iff.mpr first) b (mem_declared_iff.mpr second)
    exact Prod.ext (agree.mpr same) same
  · intro uris a first b second
    constructor
    · exact fun same => congrArg Prod.snd (List.inj_on_of_nodup_map distinct first second same)
    · exact fun same =>
        congrArg Prod.fst (uris a b (mem_declared_iff.mp first) (mem_declared_iff.mp second) same)

/-- The bindings of a written document. -/
theorem mem_bindings_iff (same : root.namespaces = declared namespaces) {b : String × String} :
    b ∈ root.bindings ↔ IsDeclaredIn namespaces b ∨ IsFreeIn namespaces b := by
  have completed := @Reading.mem_completed root.namespaces b
  rw [Reading.completed] at completed
  rw [Node.bindings, completed, same]
  simp only [mem_declared_iff]
  constructor
  · intro given
    rcases given with given | ⟨known, apart⟩
    · exact .inl given
    · exact .inr ⟨known, apart⟩
  · intro given
    rcases given with given | free
    · exact .inl given
    · exact .inr ⟨free.known, free.apart⟩

/-- The empty label and the one of XML are always there. -/
theorem bound_iff (reserved : ∀ b, IsDeclaredIn namespaces b →
      b.1 ≠ Xml.declarationLabel ∧ b.2 ≠ Xml.reservedUri ∧ b.2 ≠ Xml.declarationUri)
    {label : String} :
    (∃ uri, IsDeclaredIn namespaces (label, uri) ∨ IsFreeIn namespaces (label, uri)) ↔
      label = "" ∨ label = xmlLabel
        ∨ ∃ uri, IsDeclaredIn namespaces (label, uri) ∨ IsFreeIn namespaces (label, uri) := by
  constructor
  · exact fun given => .inr (.inr given)
  · intro given
    rcases given with empty | xml | given
    · rw [empty]
      exact ⟨"", .inr (isFreeIn_empty namespaces)⟩
    · rw [xml]
      exact ⟨xmlUri, .inr (isFreeIn_xml fun b declared => isOpen_iff.mpr (reserved b declared))⟩
    · exact given

/-! ## Names -/

/-- What is kept of a name does not end in a blank. -/
theorem last_not_blank {name : Name} (kept : readName name = name.text) :
    ∀ c, name.text.toList.getLast? = some c → Text.isBlank c = false := by
  intro c last
  rw [← kept] at last
  exact Text.not_blank_of_getLast?_trim last

/-- No label that is bound in a written document holds a line feed. -/
theorem no_feed_of_bound (checked : Checked layout.indent privileges namespaces)
    {b : String × String} (bound : IsDeclaredIn namespaces b ∨ IsFreeIn namespaces b) :
    '\n' ∉ b.1.toList := by
  rcases bound with declared | free
  · intro feed
    have plain := checked.labels b (mem_declared_iff.mpr declared)
    exact absurd (Xml.wordChars_of_isPlainName plain _ feed) (by decide)
  · have all : ∀ a ∈ wellKnown, '\n' ∉ a.1.toList := by decide
    exact all b free.known

/-- The privileges of a written document, by their texts. -/
theorem texts_eq_iff (meaning : RootMeaning privileges (openBindings namespaces) root) :
    root.privilegeTexts = privileges.map Privilege.texts ↔
      ∀ p ∈ privileges, ∀ name ∈ p.names, readName name = name.text := by
  rw [meaning.privilegeTexts, List.map_inj_left]
  refine forall₂_congr fun p _ => ?_
  rw [Privilege.texts, Privilege.names, List.forall_mem_cons, Prod.mk.injEq, Prod.mk.injEq,
    List.map_inj_left]
  simp only [true_and]

/-- No blank is cut off from names without blanks. -/
theorem ReadsBack.kept (given : ReadsBack privileges namespaces) :
    ∀ p ∈ privileges, ∀ name ∈ p.names, readName name = name.text :=
  fun p inside name named => Text.trim_of_not_blank (given.blanks p inside name named)

/-- Every name that is read is one of the names that were written. -/
theorem exists_written_name (meaning : RootMeaning privileges (openBindings namespaces) root)
    (kept : ∀ p ∈ privileges, ∀ name ∈ p.names, readName name = name.text) {tag : Xml.Tag}
    (inside : tag ∈ root.named) :
    ∃ p ∈ privileges, ∃ name ∈ p.names, tag.givenName = name.text := by
  have told : tag.givenName ∈ root.named.map Xml.Tag.givenName := List.mem_map_of_mem inside
  rw [meaning.givenNames] at told
  obtain ⟨p, inside, told⟩ := List.mem_flatMap.mp told
  obtain ⟨name, named, equal⟩ := List.mem_map.mp told
  exact ⟨p, inside, name, named, equal.symm.trans (kept p inside name named)⟩

/-- The entries of a written document are named as the privileges are. -/
theorem entryNames_of_kept (meaning : RootMeaning privileges (openBindings namespaces) root)
    (kept : ∀ p ∈ privileges, ∀ name ∈ p.names, readName name = name.text) :
    root.entries.map (·.tag.givenName) = (privileges.map (·.name)).map Name.text := by
  rw [meaning.entryNames, List.map_map, List.map_inj_left]
  exact fun p inside => kept p inside p.name (List.mem_cons_self ..)

/-! ## Reading -/

/-- A written document whose bindings are open is read when it is a list of privileges. -/
theorem readable_of_readsBack (keys : (namespaces.map Prod.fst).Nodup)
    (meaning : RootMeaning privileges (openBindings namespaces) root)
    (given : ReadsBack privileges namespaces) : root.Readable := by
  have all := all_isOpen_iff.mpr given.reserved
  have same := namespaces_eq meaning all
  refine ⟨meaning.bare.text, ?_, ?_, ?_, ?_, ?_⟩
  · rw [same]
    exact (oneToOne_declared keys).mpr given.uris
  · intro tag inside
    obtain ⟨p, -, name, -, text⟩ := exists_written_name meaning given.kept inside
    rw [text]
    exact ⟨name.text_ne_empty, name.valid⟩
  · intro node inside
    rw [meaning.entries] at inside
    obtain ⟨p, -, entry⟩ := meaning.exists_privilege inside
    rw [entry.isAbstract]
    rfl
  · rw [entryNames_of_kept meaning given.kept]
    exact given.distinct.map fun _ _ => Name.eq_of_text
  · intro tag inside q parsed
    obtain ⟨p, inside, name, named, text⟩ := exists_written_name meaning given.kept inside
    rw [text, name.ofText_parts] at parsed
    rw [← Except.ok.inj parsed]
    obtain ⟨uri, bound⟩ := (bound_iff given.reserved).mpr (given.labels p inside name named)
    exact ⟨uri, (mem_bindings_iff same).mpr bound⟩

/-- What is read back as it was is in order. -/
theorem readsBack_of_readable (keys : (namespaces.map Prod.fst).Nodup)
    (checked : Checked layout.indent privileges namespaces)
    (meaning : RootMeaning privileges (openBindings namespaces) root)
    (all : (declared namespaces).all Xml.isOpen = true) (readable : root.Readable)
    (texts : root.privilegeTexts = privileges.map Privilege.texts) :
    ReadsBack privileges namespaces := by
  have same := namespaces_eq meaning all
  have kept := (texts_eq_iff meaning).mp texts
  have labels : ∀ p ∈ privileges, ∀ name ∈ p.names,
      ∃ uri, IsDeclaredIn namespaces (name.label, uri)
        ∨ IsFreeIn namespaces (name.label, uri) := by
    intro p inside name named
    have told : readName name ∈ root.named.map Xml.Tag.givenName := by
      rw [meaning.givenNames]
      exact List.mem_flatMap.mpr ⟨p, inside, List.mem_map_of_mem named⟩
    obtain ⟨tag, inTag, equal⟩ := List.mem_map.mp told
    have parsed : QualifiedName.ofText tag.givenName = .ok name.parts := by
      rw [equal, kept p inside name named, name.ofText_parts]
    obtain ⟨uri, bound⟩ := readable.labels tag inTag name.parts parsed
    exact ⟨uri, (mem_bindings_iff same).mp bound⟩
  refine ⟨?_, ?_, ?_, all_isOpen_iff.mp all, ?_⟩
  · intro p inside name named
    obtain ⟨uri, bound⟩ := labels p inside name named
    have noFeed := no_feed_of_bound checked bound
    exact name.not_blank (last_not_blank (kept p inside name named)) noFeed
  · have distinct := readable.distinct
    rw [entryNames_of_kept meaning kept] at distinct
    exact distinct.of_map _
  · have oneToOne := readable.namespaces
    rw [same] at oneToOne
    exact (oneToOne_declared keys).mp oneToOne
  · exact fun p inside name named => .inr (.inr (labels p inside name named))

/-- The bytes of a written document are read as its tree is. -/
theorem exists_written_root (utf8 : IsUtf8 layout) (keys : (namespaces.map Prod.fst).Nodup)
    (checked : Checked layout.indent privileges namespaces)
    (same : bytes = (lines layout privileges namespaces).flatMap Encoding.utf8Char) :
    ∃ root : Node, RootMeaning privileges (openBindings namespaces) root ∧
      ∀ source catalog, (Reading.ofContent source (.bytes bytes)).outcome = .ok catalog ↔
        (declared namespaces).all Xml.isOpen = true ∧ root.Readable ∧ catalog.Denotes root := by
  obtain ⟨root, given, told⟩ := document_written utf8 keys checked
  have meaning := RootNode.meaning given
  refine ⟨root, meaning, fun source catalog => ?_⟩
  rw [same, Reading.ofContent_ok_of_plain meaning.plainTree (congrArg Xml.Document.events told),
    told]
  constructor
  · exact fun read => ⟨read.1, read.2.2⟩
  · exact fun read => ⟨read.1, meaning.legible, read.2⟩

/-- What is in order is read back, under the bindings that were declared. -/
theorem exists_read_back (utf8 : IsUtf8 layout) (keys : (namespaces.map Prod.fst).Nodup)
    (checked : Checked layout.indent privileges namespaces)
    (same : bytes = (lines layout privileges namespaces).flatMap Encoding.utf8Char)
    (given : ReadsBack privileges namespaces) (source : String) :
    ∃ catalog : Catalog, (Reading.ofContent source (.bytes bytes)).outcome = .ok catalog
      ∧ catalog.privileges = privileges := by
  obtain ⟨root, meaning, read⟩ := exists_written_root utf8 keys checked same
  have readable := readable_of_readsBack keys meaning given
  obtain ⟨catalog, denotes⟩ := Reading.exists_denotes meaning.legible readable
  refine ⟨catalog, ?_, ?_⟩
  · exact (read source catalog).mpr ⟨all_isOpen_iff.mpr given.reserved, readable, denotes⟩
  · apply Reading.privileges_eq_of_texts
    rw [denotes.privileges, (texts_eq_iff meaning).mpr given.kept]

/-- What has been written is read back as it was when it is in order, and only then. -/
theorem reads_back_iff (utf8 : IsUtf8 layout) (keys : (namespaces.map Prod.fst).Nodup)
    (checked : Checked layout.indent privileges namespaces)
    (same : bytes = (lines layout privileges namespaces).flatMap Encoding.utf8Char)
    (source : String) :
    (∃ catalog, (Reading.ofContent source (.bytes bytes)).outcome = .ok catalog
        ∧ catalog.privileges = privileges) ↔ ReadsBack privileges namespaces := by
  constructor
  · intro given
    rcases given with ⟨catalog, done, privileges_⟩
    obtain ⟨root, meaning, read⟩ := exists_written_root utf8 keys checked same
    obtain ⟨all, readable, denotes⟩ := (read source catalog).mp done
    have texts := denotes.privileges.symm
    rw [privileges_] at texts
    exact readsBack_of_readable keys checked meaning all readable texts
  · exact fun given => exists_read_back utf8 keys checked same given source

end

/-- What has been written as UTF-8 is read back as it was exactly when it is in order, and then
under the declared bindings and those of the well-known ones that they leave free. -/
theorem written_reads_back_iff (source : String) (layout : Layout) (utf8 : IsUtf8 layout)
    (privileges : List Privilege) (namespaces : Dictionary)
    (keys : (namespaces.map Prod.fst).Nodup) (bytes : Bytes)
    (written : (write layout privileges namespaces).outcome = .ok bytes) :
    ((∃ catalog, (Reading.ofContent source (.bytes bytes)).outcome = .ok catalog
          ∧ catalog.privileges = privileges) ↔ ReadsBack privileges namespaces)
      ∧ ∀ catalog, ReadsBack privileges namespaces →
          (Reading.ofContent source (.bytes bytes)).outcome = .ok catalog →
            ∀ label uri, catalog.namespaces.uriOf? label = some uri ↔
              IsDeclaredIn namespaces (label, uri) ∨ IsFreeIn namespaces (label, uri) := by
  obtain ⟨checked, same⟩ := (write_eq_ok utf8).mp written
  obtain ⟨root, meaning, read⟩ := exists_written_root utf8 keys checked same
  refine ⟨reads_back_iff utf8 keys checked same source, ?_⟩
  · intro catalog given done label uri
    obtain ⟨all, readable, denotes⟩ := (read source catalog).mp done
    rw [Reading.uriOf?_of_denotes denotes readable.namespaces,
      mem_bindings_iff (namespaces_eq meaning all)]

/-- Two privileges with one binding, as they are written and read back. -/
theorem two_privileges_read_back :
    let privileges : List Privilege :=
      [⟨⟨"p:a", rfl⟩, true, [⟨"b\"&", rfl⟩]⟩, ⟨⟨"b\"&", rfl⟩, false, []⟩]
    let namespaces : Dictionary := [("p", "urn:p"), ("", "x"), ("q", "")]
    let bytes := (lines {} privileges namespaces).flatMap Encoding.utf8Char
    IsUtf8 {} ∧ (namespaces.map Prod.fst).Nodup
      ∧ (write {} privileges namespaces).outcome = .ok bytes
      ∧ ((∃ catalog, (Reading.ofContent "" (.bytes bytes)).outcome = .ok catalog
            ∧ catalog.privileges = privileges) ↔ ReadsBack privileges namespaces)
      ∧ ∀ catalog, ReadsBack privileges namespaces →
          (Reading.ofContent "" (.bytes bytes)).outcome = .ok catalog →
            ∀ label uri, catalog.namespaces.uriOf? label = some uri ↔
              IsDeclaredIn namespaces (label, uri) ∨ IsFreeIn namespaces (label, uri) := by
  intro privileges namespaces bytes
  have utf8 : IsUtf8 {} := by decide +kernel
  have keys : (namespaces.map Prod.fst).Nodup := by decide
  have written : (write {} privileges namespaces).outcome = .ok bytes := by decide +kernel
  have main := written_reads_back_iff "" {} utf8 privileges namespaces keys bytes written
  refine ⟨utf8, keys, written, ?_⟩
  exact main

end PrivilegeCatalog.Writing
