import PrivilegeCatalog.Proofs.Writing.Openings
import PrivilegeCatalog.Writing

/-!
# The tree of a written document

Which tree the written form of privileges and bindings is scanned as (`RootNode`): one entry for
each privilege and one member for each of its members, in their order and with their names as they
are. The checks before writing (`Checked`) are all that is needed for it. The form may be spelled
with references to characters that are lacking, as long as those of the declared labels are not: a
label stands in a key, where there are no references.
-/

namespace PrivilegeCatalog.Writing

open Vocabulary
open Xml (Node XmlChars Writable isOpen Declarable IsEscape IsAscii HasAscii keyed declarations
  attributesText attributeWritten spelled spelledValue)
open Xml.Scan (Reads Holds reads_element)

/-! ## Checks -/

/-- Privileges, bindings and an indentation that can be written. -/
structure Checked (indent : String) (privileges : List Privilege) (namespaces : Dictionary) :
    Prop where
  uris : ∀ b ∈ declared namespaces, XmlChars b.2.toList ∧ Xml.isUriReference b.2 = true
  labels : ∀ b ∈ declared namespaces, Xml.isPlainName b.1.toList = true
  names : ∀ p ∈ privileges, ∀ name ∈ p.names, XmlChars name.text.toList
  indent : privileges = [] ∨ isIndent indent = true

theorem andThen_eq_ok {α ε : Type} {x : Except ε Unit} {y : Except ε α} {a : α} :
    (x >>= fun _ => y) = .ok a ↔ x = .ok () ∧ y = .ok a := by
  cases x <;> simp [bind, Except.bind]

theorem guard_eq_ok {α ε : Type} {b : Bool} {fault : ε} {y : Except ε α} {a : α} :
    (if b = true then y else (throw fault : Except ε Unit) >>= fun _ => y) = .ok a
      ↔ b = true ∧ y = .ok a := by
  cases b <;> simp [bind, Except.bind, throw, throwThe, MonadExceptOf.throw]

theorem forM_eq_ok {α ε : Type} {f : α → Except ε Unit} {xs : List α} :
    xs.forM f = .ok () ↔ ∀ x ∈ xs, f x = .ok () := by
  induction xs with
  | nil => simp [List.forM, pure, Except.pure]
  | cons x rest ih => rw [List.forM, andThen_eq_ok, List.forall_mem_cons, ih]

theorem isXmlText_iff {s : String} : Xml.isXmlText s = true ↔ XmlChars s.toList :=
  List.all_eq_true

theorem xmlChars_of_isIndent {indent : String} (unit : isIndent indent = true) :
    XmlChars indent.toList :=
  fun c inside => (Bool.and_eq_true_iff.mp (List.all_eq_true.mp unit c inside)).1

/-- A plain name is a text. -/
theorem xmlChars_of_isPlainName {cs : List Char} (plain : Xml.isPlainName cs = true) :
    XmlChars cs :=
  fun c inside => Xml.isXmlChar_of_isWordChar (Xml.wordChars_of_isPlainName plain c inside)

theorem checkBinding_eq_ok {b : String × String} :
    checkBinding b = .ok () ↔
      (XmlChars b.2.toList ∧ Xml.isUriReference b.2 = true)
        ∧ Xml.isPlainName b.1.toList = true := by
  unfold checkBinding
  dsimp only
  simp only [guard_eq_ok, isXmlText_iff]
  by_cases plain : Xml.isPlainName b.1.toList = true
  · simp [plain, xmlChars_of_isPlainName plain, pure, Except.pure]
  · simp [plain, throw, throwThe, MonadExceptOf.throw]

theorem checkNames_eq_ok {p : Privilege} :
    checkNames p = .ok () ↔ ∀ name ∈ p.names, XmlChars name.text.toList := by
  unfold checkNames
  simp only [← isXmlText_iff]
  rw [← List.all_eq_true]
  split
  case isTrue all => simp [all]
  case isFalse all => simp [all]

/-- The checks are passed by what can be written in an encoding that is known. -/
theorem check_eq_ok {layout : Layout} {privileges : List Privilege} {namespaces : Dictionary}
    {encoding : Encoding} :
    check layout privileges namespaces = .ok encoding ↔
      Checked layout.indent privileges namespaces ∧ checkEncoding layout = .ok encoding := by
  unfold check
  simp only [andThen_eq_ok, guard_eq_ok, forM_eq_ok, checkBinding_eq_ok, checkNames_eq_ok]
  rw [Bool.or_eq_true, List.isEmpty_iff]
  constructor
  · intro passed
    rcases passed with ⟨bindings, names, indent, encoding⟩
    refine ⟨⟨?_, ?_, names, indent⟩, encoding⟩
    · exact fun b inside => (bindings b inside).1
    · exact fun b inside => (bindings b inside).2
  · intro passed
    rcases passed with ⟨checked, encoding⟩
    refine ⟨?_, checked.names, checked.indent, encoding⟩
    exact fun b inside => ⟨checked.uris b inside, checked.labels b inside⟩

/-! ## Trees -/

/-- The attributes of a privilege. -/
def entryAttributes (p : Privilege) : List (String × String) :=
  (if p.isAbstract then [(abstractAttribute, "true")] else []) ++ [(nameAttribute, p.name.text)]

/-- An element that stands for a member. -/
def MemberNode (name : Name) (node : Node) : Prop :=
  ∃ line, node = .mk [] ⟨"", memberElement, line, [(nameAttribute, name.text)]⟩ []

/-- An element that stands for a privilege. -/
def EntryNode (p : Privilege) : Node → Prop :=
  Holds entryElement [] (entryAttributes p) MemberNode p.members

/-- An element that stands for privileges and declares bindings. -/
def RootNode (privileges : List Privilege) (bindings : List (String × String)) : Node → Prop :=
  Holds rootElement bindings [] EntryNode privileges

theorem Reads.weaken {depth : Nat} {text : List Char} {sound : Bool} {P Q : Node → Prop}
    (reads : Reads depth text sound P) (weaker : ∀ node, P node → Q node) :
    Reads depth text sound Q := by
  intro resolve s ready
  obtain ⟨node, line, holds, told⟩ := reads resolve ready
  exact ⟨node, line, weaker node holds, told⟩

/-- Written attributes without labels are words with values. -/
theorem writable_keyed {escape : List Char → List Char} (isEscape : IsEscape escape)
    {pairs : List (String × String)} (keys : ∀ a ∈ pairs, Xml.isPlainName a.1.toList = true)
    (values : ∀ a ∈ pairs, XmlChars a.2.toList) : Writable (keyed escape pairs) := by
  intro a held
  obtain ⟨pair, inside, same⟩ := List.mem_map.mp held
  subst same
  exact ⟨Xml.isWord_of_isPlainName (keys pair inside), isEscape.chars (values pair inside)⟩

theorem isPlainName_root : Xml.isPlainName rootElement.toList = true := by decide

theorem isPlainName_entry : Xml.isPlainName entryElement.toList = true := by decide

theorem isPlainName_member : Xml.isPlainName memberElement.toList = true := by decide

/-- The keys of attributes are plain names, and none of them declares. -/
theorem keys_plain {key : String} (known : key = abstractAttribute ∨ key = nameAttribute) :
    Xml.isPlainName key.toList = true ∧ key ≠ Xml.declarationLabel := by
  rcases known with same | same <;> subst same <;> decide

/-! ## Spellings -/

section

variable {has : Char → Bool} {indent : String}

theorem spelled_ascii_cons (ascii : HasAscii has) {c : Char} (low : c.toNat < 0x80)
    (rest : List Char) : spelled has (c :: rest) = c :: spelled has rest := by
  rw [Xml.spelled_cons, if_pos (ascii c low), List.singleton_append]

/-- An attribute is spelled in its key and in its value. -/
theorem spelled_attributeText (ascii : HasAscii has) (key : List Char) (value : String) :
    spelled has (attributeText key value)
      = attributeWritten (spelled has key) (spelledValue has value.toList) := by
  rw [attributeText, attributeWritten, spelled_ascii_cons ascii (by decide), Xml.spelled_append,
    spelled_ascii_cons ascii (by decide), spelled_ascii_cons ascii (by decide),
    Xml.spelled_append, spelled_ascii_cons ascii (by decide)]
  rfl

/-- The attributes of a start tag without labels, as they are spelled. -/
theorem spelled_keyed (ascii : HasAscii has) {pairs : List (String × String)}
    (keys : ∀ a ∈ pairs, ∀ c ∈ a.1.toList, has c = true) :
    spelled has (pairs.flatMap fun a => attributeText (word a.1) a.2)
      = attributesText (keyed (spelledValue has) pairs) := by
  rw [Xml.spelled_flatMap, attributesText, keyed, List.flatMap_map]
  refine List.flatMap_congr fun a inside => ?_
  rw [spelled_attributeText ascii, word, Xml.spelled_of_has (keys a inside)]

/-- Indentation is written in ASCII. -/
theorem ascii_lineBreak (unit : isIndent indent = true) (depth : Nat) :
    IsAscii (lineBreak indent depth) := by
  have all : ∀ n < 0x80, IsAscii (Xml.escapeTextChar (Char.ofNat n)) := by
    decide +kernel
  intro c inside
  unfold lineBreak at inside
  split at inside
  · cases inside
  · rcases List.mem_cons.mp inside with same | inside
    · rw [same]
      decide
    · obtain ⟨unit', held, inside⟩ := List.mem_flatten.mp inside
      rw [(List.mem_replicate.mp held).2] at inside
      obtain ⟨d, inUnit, inside⟩ := List.mem_flatMap.mp inside
      have low := (Bool.and_eq_true_iff.mp (List.all_eq_true.mp unit d inUnit)).2
      exact Xml.forall_ascii (P := fun c => IsAscii (Xml.escapeTextChar c)) all
        (of_decide_eq_true low) c inside

/-- An element is spelled in its attributes and in its children. -/
theorem spelled_element (ascii : HasAscii has) {name : String}
    (plain : IsAscii name.toList) {children : List (List Char)}
    (unit : children = [] ∨ isIndent indent = true) (depth : Nat) (attributes : List Char) :
    spelled has (element indent depth name attributes children)
      = element indent depth name (spelled has attributes) (children.map (spelled has)) := by
  have named : spelled has (word name) = word name := Xml.spelled_of_ascii ascii plain
  have closed : spelled has ['/', '>'] = ['/', '>'] := Xml.spelled_of_ascii ascii (by decide)
  unfold element
  rw [List.isEmpty_map]
  rcases unit with none | unit
  · subst none
    simp only [List.isEmpty_nil, if_true, Xml.spelled_append,
      spelled_ascii_cons ascii (by decide : '<'.toNat < 0x80), named, closed]
  · have breaks : ∀ depth, spelled has (lineBreak indent depth) = lineBreak indent depth :=
      fun depth => Xml.spelled_of_ascii ascii (ascii_lineBreak unit depth)
    split
    · simp only [Xml.spelled_append, spelled_ascii_cons ascii (by decide : '<'.toNat < 0x80),
        named, closed]
    · simp only [Xml.spelled_append, spelled_ascii_cons ascii (by decide : '<'.toNat < 0x80),
        spelled_ascii_cons ascii (by decide : '>'.toNat < 0x80),
        spelled_ascii_cons ascii (by decide : '/'.toNat < 0x80), Xml.spelled_flatMap, breaks,
        named, List.flatMap_map]
      rfl

end

/-! ## Members and entries -/

section

variable {has : Char → Bool} {indent : String}

theorem ascii_of_known {key : String} (known : key = abstractAttribute ∨ key = nameAttribute) :
    IsAscii key.toList := by
  rcases known with same | same <;> subst same <;> decide

/-- A member is scanned as one. -/
theorem reads_member (ascii : HasAscii has) {name : Name} (text : XmlChars name.text.toList) :
    Reads 2 (spelled has (member indent name)) true (MemberNode name) := by
  have isEscape := Xml.isEscape_spelledValue ascii
  have keys : ∀ a ∈ [(nameAttribute, name.text)],
      Xml.isPlainName a.1.toList = true ∧ a.1 ≠ Xml.declarationLabel := by
    intro a inside
    rw [List.mem_singleton.mp inside]
    exact keys_plain (.inr rfl)
  have values : ∀ a ∈ [(nameAttribute, name.text)], XmlChars a.2.toList := by
    intro a inside
    rw [List.mem_singleton.mp inside]
    exact text
  have reads : Reads 2 (spelled has (member indent name)) true
      (Holds memberElement [] [(nameAttribute, name.text)] (fun (_ : Name) _ => False) []) := by
    have written : spelled has (attributeText (word nameAttribute) name.text)
        = attributesText (keyed (spelledValue has) [(nameAttribute, name.text)]) := by
      rw [← spelled_keyed ascii, List.flatMap_singleton]
      intro a inside c held
      rw [List.mem_singleton.mp inside] at held
      exact ascii c (ascii_of_known (.inr rfl) c held)
    have none : ∀ name ∈ ([] : List Name), Reads 3 ((fun _ => []) name) true fun _ => False :=
      fun name inside => (List.not_mem_nil inside).elim
    rw [member, spelled_element ascii (by decide) (.inl rfl), written]
    exact reads_element 2 (Xml.isWord_of_isPlainName isPlainName_member)
      (writable_keyed isEscape (fun a inside => (keys a inside).1) values)
      (Xml.opening_given isEscape isPlainName_member keys values (by simp)) none nofun (by decide)
  refine Reads.weaken reads fun node holds => ?_
  obtain ⟨line, nodes, same, none⟩ := holds
  cases none
  exact ⟨line, same⟩

/-- The attributes of a privilege have known keys and texts for values. -/
theorem mem_entryAttributes {p : Privilege} (text : XmlChars p.name.text.toList) :
    ∀ a ∈ entryAttributes p, (a.1 = abstractAttribute ∨ a.1 = nameAttribute)
      ∧ XmlChars a.2.toList := by
  intro a inside
  unfold entryAttributes at inside
  rcases List.mem_append.mp inside with marked | named
  · split at marked
    · rw [List.mem_singleton.mp marked]
      exact ⟨.inl rfl, isXmlText_iff.mp (by decide)⟩
    · cases marked
  · rw [List.mem_singleton.mp named]
    exact ⟨.inr rfl, text⟩

theorem nodup_entryAttributes (p : Privilege) : ((entryAttributes p).map Prod.fst).Nodup := by
  unfold entryAttributes
  cases p.isAbstract
  · exact (by decide : [nameAttribute].Nodup)
  · exact (by decide : [abstractAttribute, nameAttribute].Nodup)

theorem flatMap_entryAttributes (p : Privilege) :
    ((entryAttributes p).flatMap fun a => attributeText (word a.1) a.2)
      = (if p.isAbstract then attributeText (word abstractAttribute) "true" else [])
        ++ attributeText (word nameAttribute) p.name.text := by
  rw [entryAttributes, List.flatMap_append, List.flatMap_singleton]
  cases p.isAbstract
  · rfl
  · rw [if_pos rfl, if_pos rfl, List.flatMap_singleton]

/-- An entry is scanned as one, with its members. -/
theorem reads_entry (ascii : HasAscii has) {p : Privilege}
    (texts : ∀ name ∈ p.names, XmlChars name.text.toList) (unit : isIndent indent = true) :
    Reads 1 (spelled has (entry indent p)) true (EntryNode p) := by
  have isEscape := Xml.isEscape_spelledValue ascii
  have kinds := mem_entryAttributes (texts p.name (List.mem_cons_self ..))
  have keys : ∀ a ∈ entryAttributes p,
      Xml.isPlainName a.1.toList = true ∧ a.1 ≠ Xml.declarationLabel :=
    fun a inside => keys_plain (kinds a inside).1
  have values : ∀ a ∈ entryAttributes p, XmlChars a.2.toList := fun a inside => (kinds a inside).2
  have spelledKeys : ∀ a ∈ entryAttributes p, ∀ c ∈ a.1.toList, has c = true :=
    fun a inside c held => ascii c (ascii_of_known (kinds a inside).1 c held)
  have members : ∀ name ∈ p.members,
      Reads 2 ((spelled has ∘ member indent) name) true (MemberNode name) :=
    fun name inside => reads_member ascii (texts name (List.mem_cons_of_mem _ inside))
  rw [entry, ← flatMap_entryAttributes, spelled_element ascii (by decide) (.inr unit),
    spelled_keyed ascii spelledKeys, List.map_map]
  exact reads_element 1 (Xml.isWord_of_isPlainName isPlainName_entry)
    (writable_keyed isEscape (fun a inside => (keys a inside).1) values)
    (Xml.opening_given isEscape isPlainName_entry keys values (nodup_entryAttributes p)) members
    (fun _ => xmlChars_of_isIndent unit) (by decide)

end

/-! ## The root -/

/-- A binding of a mapping that shows when the mapping is written. -/
structure IsDeclaredIn (namespaces : Dictionary) (b : String × String) : Prop where
  bound : b ∈ namespaces
  label : b.1 ≠ "" ∧ b.1 ≠ xmlLabel
  uri : b.2 ≠ ""

theorem mem_declared_iff {namespaces : Dictionary} {b : String × String} :
    b ∈ declared namespaces ↔ IsDeclaredIn namespaces b := by
  have shown : isDeclared b = true ↔ (b.1 ≠ "" ∧ b.1 ≠ xmlLabel) ∧ b.2 ≠ "" := by
    simp [isDeclared]
  rw [declared, List.mem_mergeSort, List.mem_filter, shown]
  constructor
  · exact fun given => ⟨given.1, given.2.1, given.2.2⟩
  · exact fun given => ⟨given.bound, given.label, given.uri⟩

theorem isDeclaredIn_iff {namespaces : Dictionary} {b : String × String} :
    IsDeclaredIn namespaces b ↔ b ∈ namespaces ∧ isDeclared b = true := by
  rw [← mem_declared_iff, declared, List.mem_mergeSort, List.mem_filter]

/-- Different labels are declared for different keys. -/
theorem nodup_declared {namespaces : Dictionary} (keys : (namespaces.map Prod.fst).Nodup) :
    ((declared namespaces).map Prod.fst).Nodup := by
  rw [declared, ((List.mergeSort_perm _ _).map Prod.fst).nodup_iff]
  exact keys.sublist (List.filter_sublist.map Prod.fst)

theorem Checked.declarable {indent : String} {privileges : List Privilege}
    {namespaces : Dictionary} (checked : Checked indent privileges namespaces) :
    ∀ b ∈ declared namespaces, Declarable b := by
  intro b inside
  have shown := mem_declared_iff.mp inside
  exact ⟨checked.labels b inside, shown.label, ⟨shown.uri, (checked.uris b inside).2⟩⟩

/-- Labels all of whose characters are there. -/
def LabelsIn (has : Char → Bool) (bindings : List (String × String)) : Prop :=
  ∀ b ∈ bindings, ∀ c ∈ b.1.toList, has c = true

/-- The declarations of bindings, as they are spelled. -/
theorem spelled_declarations {has : Char → Bool} (ascii : HasAscii has)
    {bindings : List (String × String)} (labels : LabelsIn has bindings) :
    spelled has (bindings.flatMap declaration)
      = attributesText (declarations (spelledValue has) bindings) := by
  rw [Xml.spelled_flatMap, attributesText, declarations, List.flatMap_map]
  refine List.flatMap_congr fun b inside => ?_
  have key : spelled has (word "xmlns:" ++ word b.1) = "xmlns:".toList ++ b.1.toList := by
    refine Xml.spelled_of_has (List.forall_mem_append.mpr ⟨fun c held => ?_, labels b inside⟩)
    have low : IsAscii "xmlns:".toList := by decide
    exact ascii c (low c held)
  rw [declaration, spelled_attributeText ascii, key]

theorem Checked.writable {indent : String} {privileges : List Privilege} {namespaces : Dictionary}
    (checked : Checked indent privileges namespaces) {escape : List Char → List Char}
    (isEscape : IsEscape escape) : Writable (declarations escape (declared namespaces)) := by
  intro a held
  obtain ⟨b, inside, same⟩ := List.mem_map.mp held
  subst same
  exact ⟨Xml.isWord_xmlns (Xml.wordChars_of_isPlainName (checked.labels b inside)),
    isEscape.chars (checked.uris b inside).1⟩

/-- The declared bindings that XML leaves to documents. -/
def openBindings (namespaces : Dictionary) : List (String × String) :=
  (declared namespaces).filter isOpen

/-- A written root is scanned as one, with its entries, when the labels are there in full. It is
sound when XML leaves all its bindings to documents. -/
theorem reads_root {has : Char → Bool} (ascii : HasAscii has) {indent : String}
    {privileges : List Privilege} {namespaces : Dictionary}
    (keys : (namespaces.map Prod.fst).Nodup) (checked : Checked indent privileges namespaces)
    (labels : LabelsIn has (declared namespaces)) :
    Reads 0 (spelled has (root indent privileges namespaces)) ((declared namespaces).all isOpen)
      (RootNode privileges (openBindings namespaces)) := by
  have isEscape := Xml.isEscape_spelledValue ascii
  have unit : privileges.map (entry indent) = [] ∨ isIndent indent = true :=
    checked.indent.imp_left fun none => by rw [none, List.map_nil]
  have entries : ∀ p ∈ privileges,
      Reads 1 ((spelled has ∘ entry indent) p) true (EntryNode p) := fun p inside =>
    reads_entry ascii (checked.names p inside)
      (checked.indent.resolve_left (List.ne_nil_of_mem inside))
  rw [root, spelled_element ascii (by decide) unit, spelled_declarations ascii labels,
    List.map_map]
  exact reads_element 0 (Xml.isWord_of_isPlainName isPlainName_root) (checked.writable isEscape)
    (Xml.opening_declarations isEscape isPlainName_root checked.declarable
      (fun b inside => (checked.uris b inside).1) (nodup_declared keys))
    entries (fun some_ => xmlChars_of_isIndent (checked.indent.resolve_left some_)) (by decide)

end PrivilegeCatalog.Writing
