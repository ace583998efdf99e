import PrivilegeCatalog.Proofs.Formatting.Meaning
import PrivilegeCatalog.Proofs.Writing.Canonical

/-!
# Formatting twice

What was formatted as UTF-8 is formatted to itself, under the same settings, exactly when its
declarations are open to documents and no label in use changes from one that cannot be declared to
one that can (`Formatted.repeats_iff`). The second time, the bindings to keep are chosen from
another table: that of the document that was written, in which the well-known ones are filled in
anew. They are the same bindings up to those that are never declared.
-/

namespace PrivilegeCatalog.Formatting

open Reading (Accepted)
open Writing (IsDeclaredIn IsFreeIn IsUtf8 isDeclared isDeclaredIn_iff)
open Xml (isOpen)

/-- A catalog whose canonical form is formatted to itself, together with the given bindings. -/
structure CanRepeat (catalog : Catalog) (extra : Dictionary) : Prop where
  opens : ∀ b ∈ catalog.namespaces.bindings, isDeclared b = true → isOpen b = true
  labels : ∀ b ∈ catalog.namespaces.bindings, Uses catalog.privileges b.1 →
    b = ("", "") ∨ b.1 = xmlLabel ∧ (b.2 = xmlUri ∨ b ∉ extra) ∨ isDeclared b = true

/-- A document that can be said again is formatted to itself. -/
theorem CanRestate.canRepeat {catalog : Catalog} (can : CanRestate catalog) (extra : Dictionary) :
    CanRepeat catalog extra := by
  refine ⟨can.opens, fun b bound uses => ?_⟩
  rcases can.labels b bound uses with empty | xml | declared
  · exact .inl empty
  · exact .inr (.inl ⟨congrArg Prod.fst xml, .inl (congrArg Prod.snd xml)⟩)
  · exact .inr (.inr declared)

section

variable {source : String} {catalog after : Catalog} {settings : Settings} {bytes : Bytes}

/-- Two well-known bindings of one label are the same. -/
theorem wellKnown_eq {a b : String × String} (known : a ∈ wellKnown) (known' : b ∈ wellKnown)
    (same : a.1 = b.1) : a = b :=
  Prod.ext same ((NamespaceTable.oneToOne_wellKnown a known b known').mp same)

namespace ReadAgain

variable {extra : Dictionary}

/-- What was declared the first time is shown the second time. -/
theorem shown_again (given : ReadAgain (shown catalog extra) catalog after) {b : String × String}
    (declared : IsDeclaredIn (shown catalog extra) b) : b ∈ shown after extra := by
  rcases mem_shown.mp declared.bound with kept_ | further
  · refine mem_shown.mpr (.inl (mem_kept.mpr ⟨(given.bindings b).mpr (.inl declared), ?_⟩))
    rw [given.privileges]
    exact (mem_kept.mp kept_).2
  · exact mem_shown.mpr (.inr further)

/-- What is shown the second time was shown the first time, but for the label of XML when it is in
use. -/
theorem shown_before (given : ReadAgain (shown catalog extra) catalog after)
    (accepted : Accepted catalog) (can : CanRepeat catalog extra) {b : String × String}
    (again : b ∈ shown after extra) :
    b ∈ shown catalog extra ∨ b = (xmlLabel, xmlUri) ∧ Uses catalog.privileges xmlLabel := by
  rcases mem_shown.mp again with kept_ | further
  · obtain ⟨bound, used⟩ := mem_kept.mp kept_
    rcases (given.bindings b).mp bound with declared | free
    · exact .inl declared.bound
    · -- The label is used, so the document has bound it, in a way that was not declared.
      have uses := used free.known
      rw [given.privileges] at uses
      obtain ⟨uri, before⟩ := exists_bound_of_uses accepted uses
      rcases can.labels _ before uses with empty | ⟨xml, -⟩ | declared
      · have label : b.1 = "" := congrArg Prod.fst empty
        have same : b = ("", "") := wellKnown_eq free.known (by decide) label
        have inside := mem_shown_of_uses extra before uses
        rw [empty, ← same] at inside
        exact .inl inside
      · have label : b.1 = xmlLabel := xml
        rw [label] at uses
        exact .inr ⟨wellKnown_eq free.known (by decide) label, uses⟩
      · have shown_ := isDeclaredIn_iff.mpr ⟨mem_shown_of_uses extra before uses, declared⟩
        exact ((free.apart _ shown_).1 rfl).elim
  · exact .inl (mem_shown.mpr (.inr further))

/-- The same bindings are declared both times. -/
theorem isDeclaredIn_iff_again (given : ReadAgain (shown catalog extra) catalog after)
    (accepted : Accepted catalog) (can : CanRepeat catalog extra) (b : String × String) :
    IsDeclaredIn (shown after extra) b ↔ IsDeclaredIn (shown catalog extra) b := by
  constructor
  · intro declared
    rcases given.shown_before accepted can declared.bound with before | ⟨xml, -⟩
    · exact ⟨before, declared.label, declared.uri⟩
    · exact (declared.label.2 (congrArg Prod.fst xml)).elim
  · exact fun declared => ⟨given.shown_again declared, declared.label, declared.uri⟩

/-- The label of XML, when it is in use, agrees with all that is shown the second time. -/
theorem xml_agrees (given : ReadAgain (shown catalog extra) catalog after)
    (accepted : Accepted catalog) (accepted' : Accepted after)
    (oneToOne : OneToOne (shown catalog extra)) (extras : ∀ b ∈ extra, isOpen b = true)
    (can : CanRepeat catalog extra) (uses : Uses catalog.privileges xmlLabel)
    {b : String × String} (again : b ∈ shown after extra) : b.1 = xmlLabel ↔ b.2 = xmlUri := by
  have xml : (xmlLabel, xmlUri) ∈ after.namespaces.bindings :=
    (given.bindings _).mpr (.inr (Writing.isFreeIn_xml given.opens))
  rcases mem_shown.mp again with kept_ | further
  · exact accepted'.oneToOne b (mem_kept.mp kept_).1 _ xml
  · have foreign : b.2 ≠ xmlUri := (Writing.isOpen_iff.mp (extras b further)).2.1
    refine ⟨fun label => ?_, fun uri => (foreign uri).elim⟩
    -- The first time the label agreed with the one that the document bound, which is not among
    -- the further bindings.
    obtain ⟨uri, before⟩ := exists_bound_of_uses accepted uses
    have shown_ := mem_shown_of_uses extra before uses
    have same : b = (xmlLabel, uri) := by
      refine Prod.ext label ((oneToOne b ?_ _ shown_).mp label)
      exact mem_shown.mpr (.inr further)
    rcases can.labels _ before uses with empty | ⟨-, uri_ | absent⟩ | declared
    · exact absurd (congrArg Prod.fst empty) (by decide : xmlLabel ≠ "")
    · rw [same]
      exact uri_
    · exact (absent (same ▸ further)).elim
    · exact ((isDeclaredIn_iff.mpr ⟨shown_, declared⟩).label.2 rfl).elim

/-- The bindings that are shown the second time agree with each other. -/
theorem oneToOne_again (given : ReadAgain (shown catalog extra) catalog after)
    (accepted : Accepted catalog) (accepted' : Accepted after)
    (oneToOne : OneToOne (shown catalog extra)) (extras : ∀ b ∈ extra, isOpen b = true)
    (can : CanRepeat catalog extra) : OneToOne (shown after extra) := by
  intro a first b second
  have agrees : ∀ c ∈ shown after extra, Uses catalog.privileges xmlLabel →
      (c.1 = xmlLabel ↔ c.2 = xmlUri) :=
    fun c inside uses => given.xml_agrees accepted accepted' oneToOne extras can uses inside
  rcases given.shown_before accepted can first with before | ⟨xml, uses⟩
  · rcases given.shown_before accepted can second with before' | ⟨xml, uses⟩
    · exact oneToOne a before b before'
    · rw [xml]
      exact agrees a first uses
  · rw [xml, eq_comm (a := xmlLabel), eq_comm (a := xmlUri)]
    exact agrees b second uses

end ReadAgain

/-- A further binding of the label of XML, when the label is in use, is the reserved one. -/
theorem ReadAgain.uri_of_xml {extra : Dictionary}
    (given : ReadAgain (shown catalog extra) catalog after)
    (oneToOne' : OneToOne (shown after extra)) (uses : Uses after.privileges xmlLabel)
    {b : String × String} (further : b ∈ extra) (xml : b.1 = xmlLabel) : b.2 = xmlUri := by
  have bound := (given.bindings _).mpr (.inr (Writing.isFreeIn_xml given.opens))
  have shown_ := mem_shown_of_uses extra bound uses
  exact (oneToOne' b (mem_shown.mpr (.inr further)) _ shown_).mp xml

/-- The second time it is formatted, a document whose declarations are the same as the first time
has labels in use that could be declared the first time. -/
theorem ReadAgain.canRepeat {extra : Dictionary}
    (given : ReadAgain (shown catalog extra) catalog after)
    (empty : ∀ b ∈ catalog.namespaces.bindings, b.1 = "" → b = ("", ""))
    (oneToOne : OneToOne (shown catalog extra)) (accepted' : Accepted after)
    (oneToOne' : OneToOne (shown after extra)) (extras : ∀ b ∈ extra, isOpen b = true)
    (same : ∀ b, IsDeclaredIn (shown after extra) b → IsDeclaredIn (shown catalog extra) b) :
    CanRepeat catalog extra := by
  refine ⟨(opens_shown_iff extras).mp given.opens, fun b bound uses => ?_⟩
  have uses' : Uses after.privileges b.1 := by
    rw [given.privileges]
    exact uses
  by_cases unlabelled : b.1 = ""
  · exact .inl (empty b bound unlabelled)
  by_cases xml : b.1 = xmlLabel
  · refine .inr (.inl ⟨xml, ?_⟩)
    by_cases further : b ∈ extra
    · exact .inl (given.uri_of_xml oneToOne' (xml ▸ uses') further xml)
    · exact .inr further
  · refine .inr (.inr ?_)
    -- The label is bound the second time to what it was bound to, or to something well known
    -- that was not declared the first time.
    obtain ⟨uri, again⟩ := exists_bound_of_uses accepted' uses'
    have declared : IsDeclaredIn (shown catalog extra) (b.1, uri) := by
      rcases (given.bindings _).mp again with declared | free
      · exact declared
      · refine same _ (isDeclaredIn_iff.mpr ⟨mem_shown_of_uses _ again uses', ?_⟩)
        rcases wellKnown_cases _ free.known with none | reserved | both
        · exact (unlabelled (congrArg Prod.fst none)).elim
        · exact (xml (congrArg Prod.fst reserved)).elim
        · exact both.1
    have equal : b = (b.1, uri) := by
      refine Prod.ext rfl ((oneToOne b ?_ _ declared.bound).mp rfl)
      exact mem_shown_of_uses _ bound uses
    rw [equal]
    exact (isDeclaredIn_iff.mp declared).2

/-- A document that was read and has been formatted is formatted to itself when it can be. -/
theorem Formatted.repeats_iff (formatted : Formatted settings catalog bytes)
    (extras : ∀ b ∈ settings.namespaces, isOpen b = true) (source : String) :
    (∃ after, (Reading.ofContent source (.bytes bytes)).outcome = .ok after
        ∧ (format settings after).outcome = .ok bytes)
          ↔ CanRepeat catalog settings.namespaces := by
  constructor
  · intro repeated
    rcases repeated with ⟨after, again, done⟩
    have accepted' := Reading.accepted_of_read again
    obtain ⟨oneToOne', written'⟩ := (format_ok accepted').mp done
    have keys' := oneToOne'.nodup_keys (Reading.nodup_eraseDups _)
    have same := Writing.declared_of_written formatted.utf8 formatted.keys keys' formatted.written
      written'
    exact (formatted.readAgain again).canRepeat formatted.empty formatted.oneToOne accepted'
      oneToOne' extras fun b => (same b).mpr
  · intro can
    have opens := (opens_shown_iff extras).mpr can.opens
    obtain ⟨after, again⟩ : ∃ after,
        (Reading.ofContent source (.bytes bytes)).outcome = .ok after := by
      refine formatted.exists_again opens (fun label uses => ?_) source
      obtain ⟨uri, bound⟩ := exists_bound_of_uses formatted.accepted uses
      rcases can.labels _ bound uses with empty | ⟨xml, -⟩ | declared
      · exact .inl (congrArg Prod.fst empty)
      · exact .inr (.inl xml)
      · exact .inr
          (.inr ⟨uri, .inl (isDeclaredIn_iff.mpr ⟨mem_shown_of_uses _ bound uses, declared⟩)⟩)
    have accepted' := Reading.accepted_of_read again
    have given := formatted.readAgain again
    have oneToOne' :=
      given.oneToOne_again formatted.accepted accepted' formatted.oneToOne extras can
    have keys' := oneToOne'.nodup_keys (Reading.nodup_eraseDups _)
    have same := (Writing.declared_eq_iff keys' formatted.keys).mpr
      (given.isDeclaredIn_iff_again formatted.accepted can)
    refine ⟨after, again, (format_ok accepted').mpr ⟨oneToOne', ?_⟩⟩
    rw [given.privileges]
    exact (Writing.write_congr formatted.utf8 same).mpr formatted.written

end

end PrivilegeCatalog.Formatting
