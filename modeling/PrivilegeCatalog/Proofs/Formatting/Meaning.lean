import PrivilegeCatalog.Proofs.Formatting.Namespaces
import PrivilegeCatalog.Proofs.Reading.Identity
import PrivilegeCatalog.Proofs.Writing.ReadBack

/-!
# What a formatted document means

A document that has been read and formatted as UTF-8 says what it said before, every name under
the same URI, exactly when its declarations are open to documents and each of its names has a
label that can be declared, or that needs no declaration (`Formatted.exists_restates_iff`). What
else is settled for documents plays no part in it. A document whose type gives no declarations by
default always is of that kind (`canRestate_of_silent`).
-/

namespace PrivilegeCatalog.Formatting

open Reading (Accepted)
open Writing (IsDeclaredIn IsFreeIn IsUtf8 ReadsBack isDeclared isDeclaredIn_iff)
open Xml (Content isOpen)

/-! ## Bindings -/

/-- The well-known bindings that can be declared are open to documents; two cannot be declared. -/
theorem wellKnown_cases : ∀ b ∈ wellKnown,
    b = ("", "") ∨ b = (xmlLabel, xmlUri) ∨ isDeclared b = true ∧ isOpen b = true := by
  decide

section

variable {source : String} {content : Content} {catalog after : Catalog} {settings : Settings}
  {bytes : Bytes} {extra : Dictionary}

/-- A label that is used is bound. -/
theorem exists_bound_of_uses (accepted : Accepted catalog) {label : String}
    (uses : Uses catalog.privileges label) :
    ∃ uri, (label, uri) ∈ catalog.namespaces.bindings := by
  obtain ⟨p, inside, name, named, same⟩ := uses
  rw [← same]
  exact accepted.labels p inside name named

/-- A binding that some name uses is shown. -/
theorem mem_shown_of_uses (extra : Dictionary) {b : String × String}
    (bound : b ∈ catalog.namespaces.bindings)
    (uses : Uses catalog.privileges b.1) : b ∈ shown catalog extra :=
  mem_shown.mpr (.inl (mem_kept.mpr ⟨bound, fun _ => uses⟩))

/-- With further bindings that are open, the declarations that are shown are open when those of
the document are. -/
theorem opens_shown_iff (extras : ∀ b ∈ extra, isOpen b = true) :
    (∀ b, IsDeclaredIn (shown catalog extra) b → isOpen b = true)
      ↔ ∀ b ∈ catalog.namespaces.bindings, isDeclared b = true → isOpen b = true := by
  simp only [isDeclaredIn_iff, mem_shown]
  constructor
  · intro opens b bound declared
    by_cases kept_ : b ∈ kept catalog
    · exact opens b ⟨.inl kept_, declared⟩
    · have known : b ∈ wellKnown := by
        by_contra other
        exact kept_ (mem_kept.mpr ⟨bound, fun known => (other known).elim⟩)
      have apart : ∀ a ∈ wellKnown, isDeclared a = true → isOpen a = true := by decide
      exact apart b known declared
  · intro opens b given
    rcases given with ⟨kept_ | further, declared⟩
    · exact opens b (mem_kept.mp kept_).1 declared
    · exact extras b further

/-! ## Writing -/

/-- A document is formatted when its namespaces agree with the further ones and it can be
written. -/
theorem format_ok (accepted : Accepted catalog) :
    (format settings catalog).outcome = .ok bytes ↔
      OneToOne (shown catalog settings.namespaces)
        ∧ (Writing.write settings.layout catalog.privileges
            (shown catalog settings.namespaces)).outcome = .ok bytes := by
  simp only [format, formatWith, Logged.outcome_bind_eq_ok, Logged.outcome_mapError_eq_ok,
    namespaces_ok accepted.oneToOne]
  constructor
  · intro done
    rcases done with ⟨_, ⟨oneToOne, rfl⟩, written⟩
    exact ⟨oneToOne, written⟩
  · intro given
    exact ⟨_, ⟨given.1, rfl⟩, given.2⟩

/-- As text a document is formatted when it is as bytes, and the text is stored as those. -/
theorem formatText_ok (utf8 : IsUtf8 settings.layout) {text : String} :
    (formatText settings catalog).outcome = .ok text
      ↔ (format settings catalog).outcome = .ok (Encoding.utf8.encode text.toList) := by
  simp only [formatText, format, formatWith, Logged.outcome_bind_eq_ok,
    Logged.outcome_mapError_eq_ok, Writing.writeText_eq_ok utf8]

/-- What is formatted as UTF-8 is a text. -/
theorem exists_text (utf8 : IsUtf8 settings.layout)
    (done : (format settings catalog).outcome = .ok bytes) :
    ∃ text : String, bytes = Encoding.utf8.encode text.toList := by
  simp only [format, formatWith, Logged.outcome_bind_eq_ok, Logged.outcome_mapError_eq_ok] at done
  obtain ⟨table, -, written⟩ := done
  obtain ⟨-, same⟩ := (Writing.write_eq_ok utf8).mp written
  refine ⟨String.ofList (Writing.lines settings.layout catalog.privileges table.bindings), ?_⟩
  rw [same, String.toList_ofList]
  rfl

/-! ## Reading what was written -/

/-- What is known of a document that was read and has been formatted as UTF-8. -/
structure Formatted (settings : Settings) (catalog : Catalog) (bytes : Bytes) : Prop where
  utf8 : IsUtf8 settings.layout
  accepted : Accepted catalog
  names : ∀ p ∈ catalog.privileges, ∀ name ∈ p.names,
    ∀ c ∈ name.text.toList, Text.isBlank c = false
  empty : ∀ b ∈ catalog.namespaces.bindings, b.1 = "" → b = ("", "")
  oneToOne : OneToOne (shown catalog settings.namespaces)
  written : (Writing.write settings.layout catalog.privileges
    (shown catalog settings.namespaces)).outcome = .ok bytes

theorem formatted_of_read (read : (Reading.ofContent source content).outcome = .ok catalog)
    (utf8 : IsUtf8 settings.layout) (done : (format settings catalog).outcome = .ok bytes) :
    Formatted settings catalog bytes := by
  have accepted := Reading.accepted_of_read read
  obtain ⟨root, -, -, denotes⟩ := Reading.exists_root_of_read read
  obtain ⟨oneToOne, written⟩ := (format_ok accepted).mp done
  exact ⟨utf8, accepted, fun p inside name named => Reading.not_blank_of_read read inside named,
    fun b bound => Reading.eq_of_empty_label denotes bound, oneToOne, written⟩

/-- What is read of a formatted document: its declarations are open, the privileges are the same,
and the bindings are those that it declares and the well-known ones that they leave free. -/
structure ReadAgain (namespaces : Dictionary) (before after : Catalog) : Prop where
  opens : ∀ b, IsDeclaredIn namespaces b → isOpen b = true
  privileges : after.privileges = before.privileges
  bindings : ∀ b, b ∈ after.namespaces.bindings
    ↔ IsDeclaredIn namespaces b ∨ IsFreeIn namespaces b

namespace Formatted

theorem keys (formatted : Formatted settings catalog bytes) :
    ((shown catalog settings.namespaces).map Prod.fst).Nodup :=
  formatted.oneToOne.nodup_keys (Reading.nodup_eraseDups _)

theorem readAgain (formatted : Formatted settings catalog bytes)
    (again : (Reading.ofContent source (.bytes bytes)).outcome = .ok after) :
    ReadAgain (shown catalog settings.namespaces) catalog after := by
  obtain ⟨checked, encoded⟩ := (Writing.write_eq_ok formatted.utf8).mp formatted.written
  obtain ⟨root, meaning, read⟩ :=
    Writing.exists_written_root formatted.utf8 formatted.keys checked encoded
  obtain ⟨all, -, denotes⟩ := (read source after).mp again
  refine ⟨fun b declared => List.all_eq_true.mp all b (Writing.mem_declared_iff.mpr declared), ?_,
    fun b => ?_⟩
  · apply Reading.privileges_eq_of_texts
    rw [denotes.privileges, (Writing.texts_eq_iff meaning).mpr]
    exact fun p inside name named => Text.trim_of_not_blank (formatted.names p inside name named)
  · rw [Reading.bindings_of_denotes denotes]
    exact Writing.mem_bindings_iff (Writing.namespaces_eq meaning all)

/-- A formatted document is read when its declarations are open and all labels in use are
bound. -/
theorem exists_again (formatted : Formatted settings catalog bytes)
    (opens : ∀ b, IsDeclaredIn (shown catalog settings.namespaces) b → isOpen b = true)
    (labels : ∀ label, Uses catalog.privileges label → label = "" ∨ label = xmlLabel
      ∨ ∃ uri, IsDeclaredIn (shown catalog settings.namespaces) (label, uri)
        ∨ IsFreeIn (shown catalog settings.namespaces) (label, uri)) (source : String) :
    ∃ after, (Reading.ofContent source (.bytes bytes)).outcome = .ok after := by
  obtain ⟨checked, encoded⟩ := (Writing.write_eq_ok formatted.utf8).mp formatted.written
  have given : ReadsBack catalog.privileges (shown catalog settings.namespaces) := by
    refine ⟨formatted.names, formatted.accepted.distinct, ?_, ?_, ?_⟩
    · intro a b first second same
      have agree := formatted.oneToOne a first.bound b second.bound
      exact Prod.ext (agree.mpr same) same
    · exact fun b declared => Writing.isOpen_iff.mp (opens b declared)
    · exact fun p inside name named => labels name.label ⟨p, inside, name, named, rfl⟩
  obtain ⟨after, again, -⟩ :=
    Writing.exists_read_back formatted.utf8 formatted.keys checked encoded given source
  exact ⟨after, again⟩

end Formatted

/-! ## Meaning -/

/-- A catalog says what another one says: the same privileges, and every name in them stands for
the same. -/
structure Restates (after before : Catalog) : Prop where
  privileges : after.privileges = before.privileges
  expanded : ∀ p ∈ before.privileges, ∀ name ∈ p.names,
    after.namespaces.expand name.text = before.namespaces.expand name.text

/-- A catalog that can be said again by a document without a type. -/
structure CanRestate (catalog : Catalog) : Prop where
  opens : ∀ b ∈ catalog.namespaces.bindings, isDeclared b = true → isOpen b = true
  labels : ∀ b ∈ catalog.namespaces.bindings, Uses catalog.privileges b.1 →
    b = ("", "") ∨ b = (xmlLabel, xmlUri) ∨ isDeclared b = true

/-- Without declarations by default a document can be said again. -/
theorem canRestate_of_silent (read : (Reading.ofContent source content).outcome = .ok catalog)
    (silent : (Reading.typeOf content).Silent) : CanRestate catalog := by
  have orderly := Reading.orderly_of_silent read silent
  constructor
  · intro b bound declared
    rcases orderly b bound with empty | xml | permitted
    · rw [empty] at declared
      cases declared
    · rw [xml] at declared
      exact absurd declared (by decide)
    · exact permitted.isOpen
  · intro b bound _
    rcases orderly b bound with empty | xml | permitted
    · exact .inl empty
    · exact .inr (.inl xml)
    · have declared : IsDeclaredIn catalog.namespaces.bindings b :=
        ⟨bound, permitted.declarable.label, permitted.declarable.uri.1⟩
      exact .inr (.inr (isDeclaredIn_iff.mp declared).2)

/-- What is read again says the same when all names that are used are bound as before. -/
theorem restates_iff_bound (accepted : Accepted catalog) (accepted' : Accepted after)
    (privileges : after.privileges = catalog.privileges) :
    Restates after catalog ↔ ∀ b ∈ catalog.namespaces.bindings, Uses catalog.privileges b.1 →
      b ∈ after.namespaces.bindings := by
  constructor
  · intro restates b bound uses
    obtain ⟨p, inside, name, named, label⟩ := uses
    have before : catalog.namespaces.uriOf? name.label = some b.2 := by
      rw [label]
      exact accepted.uriOf?_iff.mpr bound
    have same := (NamespaceTable.expand_eq_iff before).mp (restates.expanded p inside name named)
    rw [label] at same
    exact accepted'.uriOf?_iff.mp same
  · intro same
    refine ⟨privileges, fun p inside name named => ?_⟩
    obtain ⟨uri, bound⟩ := accepted.labels p inside name named
    refine (NamespaceTable.expand_eq_iff (accepted.uriOf?_iff.mpr bound)).mpr ?_
    exact accepted'.uriOf?_iff.mpr (same _ bound ⟨p, inside, name, named, rfl⟩)

/-- A binding in use is declared again, or it is one of the two that need no declaration. -/
theorem CanRestate.bound_again (can : CanRestate catalog)
    (opens : ∀ b, IsDeclaredIn (shown catalog extra) b → isOpen b = true) {b : String × String}
    (bound : b ∈ catalog.namespaces.bindings) (uses : Uses catalog.privileges b.1) :
    IsDeclaredIn (shown catalog extra) b ∨ IsFreeIn (shown catalog extra) b := by
  rcases can.labels b bound uses with empty | xml | declared
  · exact .inr (empty ▸ Writing.isFreeIn_empty _)
  · exact .inr (xml ▸ Writing.isFreeIn_xml opens)
  · exact .inl (isDeclaredIn_iff.mpr ⟨mem_shown_of_uses _ bound uses, declared⟩)

/-- A document that was read and has been formatted says the same again when it can. -/
theorem Formatted.exists_restates_iff (formatted : Formatted settings catalog bytes)
    (extras : ∀ b ∈ settings.namespaces, isOpen b = true) (source : String) :
    (∃ after, (Reading.ofContent source (.bytes bytes)).outcome = .ok after
        ∧ Restates after catalog) ↔ CanRestate catalog := by
  constructor
  · intro given
    rcases given with ⟨after, again, restates⟩
    have accepted' := Reading.accepted_of_read again
    obtain ⟨opens, -, bindings⟩ := formatted.readAgain again
    refine ⟨(opens_shown_iff extras).mp opens, fun b bound uses => ?_⟩
    have same := (restates_iff_bound formatted.accepted accepted' restates.privileges).mp restates
      b bound uses
    rcases (bindings b).mp same with declared | free
    · exact .inr (.inr (isDeclaredIn_iff.mp declared).2)
    · rcases wellKnown_cases b free.known with empty | xml | both
      · exact .inl empty
      · exact .inr (.inl xml)
      · exact .inr (.inr both.1)
  · intro can
    have opens := (opens_shown_iff extras).mpr can.opens
    obtain ⟨after, again⟩ : ∃ after,
        (Reading.ofContent source (.bytes bytes)).outcome = .ok after := by
      refine formatted.exists_again opens (fun label uses => ?_) source
      obtain ⟨uri, bound⟩ := exists_bound_of_uses formatted.accepted uses
      exact .inr (.inr ⟨uri, can.bound_again opens bound uses⟩)
    obtain ⟨-, privileges, bindings⟩ := formatted.readAgain again
    have accepted' := Reading.accepted_of_read again
    refine ⟨after, again, (restates_iff_bound formatted.accepted accepted' privileges).mpr ?_⟩
    exact fun b bound uses => (bindings b).mpr (can.bound_again opens bound uses)

end

end PrivilegeCatalog.Formatting
