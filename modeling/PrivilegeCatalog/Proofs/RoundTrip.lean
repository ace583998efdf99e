import PrivilegeCatalog.Proofs.Reading.Accepted
import PrivilegeCatalog.Proofs.Writing.Canonical
import PrivilegeCatalog.Proofs.Writing.ReadBack
import PrivilegeCatalog.RoundTrip

/-!
# Rewriting a document

A document that was read is written and read again with nothing lost, and its second writing gives
the bytes of the first, exactly when its bindings keep the rules of XML and the indentation can be
written (`rewriting_settles_iff`). The first condition can only fail for declarations that the
type of a document gives by default, since the rules are not checked for these.
-/

namespace PrivilegeCatalog.RoundTrip

open Reading (Accepted Orderly)
open Writing (IsUtf8 IsDeclaredIn IsFreeIn ReadsBack declared)
open Xml (Content)

variable {catalog before after : Catalog} {layout : Layout}

/-! ## Orderly bindings -/

theorem orderly_declared {b : String × String} (orderly : Orderly b) {namespaces : Dictionary}
    (shown : IsDeclaredIn namespaces b) : Xml.Permitted b := by
  rcases orderly with empty | xml | permitted
  · exact (shown.label.1 (congrArg Prod.fst empty)).elim
  · exact (shown.label.2 (congrArg Prod.fst xml)).elim
  · exact permitted

theorem declared_of_permitted {b : String × String} (permitted : Xml.Permitted b)
    {namespaces : Dictionary} (inside : b ∈ namespaces) : IsDeclaredIn namespaces b :=
  ⟨inside, permitted.declarable.label, permitted.declarable.uri.1⟩

/-- A label of an orderly binding holds no line feed. -/
theorem no_feed_of_orderly {b : String × String} (orderly : Orderly b) : '\n' ∉ b.1.toList := by
  rcases orderly with empty | xml | permitted
  · rw [empty]
    decide
  · rw [xml]
    decide
  · intro feed
    exact absurd (Xml.wordChars_of_isPlainName permitted.declarable.plain _ feed) (by decide)

/-! ## Writing and reading again -/

/-- An orderly catalog that was read can be written, and is in order to be read back. -/
theorem checked_of_orderly (accepted : Accepted catalog)
    (orderly : ∀ b ∈ catalog.namespaces.bindings, Orderly b)
    (indent : catalog.privileges = [] ∨ Writing.isIndent layout.indent = true) :
    Writing.Checked layout.indent catalog.privileges catalog.namespaces.bindings := by
  have permitted : ∀ b ∈ declared catalog.namespaces.bindings, Xml.Permitted b := by
    intro b inside
    have shown := Writing.mem_declared_iff.mp inside
    exact orderly_declared (orderly b shown.bound) shown
  refine ⟨fun b inside => ⟨?_, ?_⟩, ?_, ?_, indent⟩
  · exact accepted.uris b (Writing.mem_declared_iff.mp inside).bound
  · exact (permitted b inside).declarable.uri.2
  · exact fun b inside => (permitted b inside).declarable.plain
  · exact fun p inside name named => (accepted.texts p inside name named).1

theorem readsBack_of_orderly (accepted : Accepted catalog)
    (orderly : ∀ b ∈ catalog.namespaces.bindings, Orderly b) :
    ReadsBack catalog.privileges catalog.namespaces.bindings := by
  refine ⟨?_, accepted.distinct, ?_, ?_, ?_⟩
  · intro p inside name named
    obtain ⟨uri, bound⟩ := accepted.labels p inside name named
    have noFeed := no_feed_of_orderly (orderly _ bound)
    exact name.not_blank (accepted.texts p inside name named).2 noFeed
  · intro a b first second same
    exact Prod.ext ((accepted.oneToOne a first.bound b second.bound).mpr same) same
  · intro b shown
    exact Writing.isOpen_iff.mp (orderly_declared (orderly b shown.bound) shown).isOpen
  · intro p inside name named
    obtain ⟨uri, bound⟩ := accepted.labels p inside name named
    rcases orderly _ bound with empty | xml | permitted
    · exact .inl (congrArg Prod.fst empty)
    · exact .inr (.inl (congrArg Prod.fst xml))
    · exact .inr (.inr ⟨uri, .inl (declared_of_permitted permitted bound)⟩)

/-- A well-known binding is there when no declared binding has half of it. -/
theorem mem_bindings_of_free (accepted : Accepted catalog)
    (orderly : ∀ b ∈ catalog.namespaces.bindings, Orderly b) {b : String × String}
    (free : IsFreeIn catalog.namespaces.bindings b) : b ∈ catalog.namespaces.bindings := by
  rcases accepted.filled b free.known with inside | ⟨a, inside, half⟩
  · exact inside
  · -- Whatever has half of it is not declared, so it is one of the two that never are.
    have halves : ∀ c ∈ wellKnown, ∀ d ∈ [("", ""), (xmlLabel, xmlUri)],
        d.1 = c.1 ∨ d.2 = c.2 → d = c := by
      decide
    rcases orderly a inside with empty | xml | known
    · have same : a = b := halves b free.known a (by simp [empty]) half
      exact same ▸ inside
    · have same : a = b := halves b free.known a (by simp [xml]) half
      exact same ▸ inside
    · have apart := free.apart a (declared_of_permitted known inside)
      rcases half with label | uri
      · exact (apart.1 label).elim
      · exact (apart.2 uri).elim

/-- The bindings of an orderly catalog that was read are those that are declared and the
well-known ones that they leave free. -/
theorem mem_bindings_of_orderly (accepted : Accepted catalog)
    (orderly : ∀ b ∈ catalog.namespaces.bindings, Orderly b) {b : String × String} :
    b ∈ catalog.namespaces.bindings ↔
      IsDeclaredIn catalog.namespaces.bindings b ∨ IsFreeIn catalog.namespaces.bindings b := by
  have permitted : ∀ a, IsDeclaredIn catalog.namespaces.bindings a → Xml.Permitted a :=
    fun a shown => orderly_declared (orderly a shown.bound) shown
  constructor
  · intro inside
    rcases orderly b inside with empty | xml | known
    · rw [empty]
      exact .inr (Writing.isFreeIn_empty _)
    · rw [xml]
      exact .inr (Writing.isFreeIn_xml fun a shown => (permitted a shown).isOpen)
    · exact .inl (declared_of_permitted known inside)
  · intro given
    rcases given with shown | free
    · exact shown.bound
    · exact mem_bindings_of_free accepted orderly free

/-! ## Two rounds -/

/-- The rounds lose nothing: the second reading gives what the first one gave, and the second
writing the same bytes. -/
structure Rounds.Settles (r : Rounds) (before : Catalog) : Prop where
  start : r.before = before
  privileges : r.after.privileges = before.privileges
  namespaces : ∀ label, r.after.namespaces.uriOf? label = before.namespaces.uriOf? label
  stable : r.second = r.first

/-- A catalog can be written again: the indentation can stand in it and its bindings keep the
rules of XML. -/
structure CanSettle (layout : Layout) (catalog : Catalog) : Prop where
  indent : catalog.privileges = [] ∨ Writing.isIndent layout.indent = true
  orderly : ∀ b ∈ catalog.namespaces.bindings, Orderly b

/-- Both rounds succeed when each of their parts does. -/
theorem twice_eq_ok {source : String} {content : Content} {r : Rounds} :
    (twice source layout content).outcome = .ok r ↔
      (Reading.ofContent source content).outcome = .ok r.before
        ∧ (Writing.write layout r.before.privileges r.before.namespaces.bindings).outcome
          = .ok r.first
        ∧ (Reading.ofContent secondSource (.bytes r.first)).outcome = .ok r.after
        ∧ (Writing.write layout r.after.privileges r.after.namespaces.bindings).outcome
          = .ok r.second := by
  simp only [twice, Logged.outcome_bind_eq_ok, read, write, Logged.outcome_mapError_eq_ok,
    Logged.outcome_pure, Except.ok.injEq]
  constructor
  · intro done
    rcases done with ⟨before, first, bytes, written, after, again, bytes', written', same⟩
    subst same
    exact ⟨first, written, again, written'⟩
  · intro done
    rcases done with ⟨first, written, again, written'⟩
    exact ⟨_, first, _, written, _, again, _, written', rfl⟩

/-- Catalogs that were read and have the same namespaces under the same labels have the same
bindings. -/
theorem mem_bindings_iff_of_same (accepted : Accepted before) (accepted' : Accepted after)
    (same : ∀ label, after.namespaces.uriOf? label = before.namespaces.uriOf? label)
    (b : String × String) :
    b ∈ after.namespaces.bindings ↔ b ∈ before.namespaces.bindings := by
  rw [← accepted'.uriOf?_iff, ← accepted.uriOf?_iff, same]

theorem same_of_mem_bindings_iff (accepted : Accepted before) (accepted' : Accepted after)
    (same : ∀ b, b ∈ after.namespaces.bindings ↔ b ∈ before.namespaces.bindings)
    (label : String) : after.namespaces.uriOf? label = before.namespaces.uriOf? label := by
  refine Option.ext fun uri => ?_
  rw [accepted'.uriOf?_iff, accepted.uriOf?_iff, same]

/-- What is read back has the declared bindings and the free well-known ones. -/
theorem mem_bindings_of_read_back {source : String} {bytes : Bytes} (utf8 : IsUtf8 layout)
    (accepted : Accepted before)
    (written : (Writing.write layout before.privileges before.namespaces.bindings).outcome
      = .ok bytes)
    (again : (Reading.ofContent source (.bytes bytes)).outcome = .ok after) :
    (declared before.namespaces.bindings).all Xml.isOpen = true
      ∧ ∀ b, b ∈ after.namespaces.bindings ↔
          IsDeclaredIn before.namespaces.bindings b ∨ IsFreeIn before.namespaces.bindings b := by
  obtain ⟨checked, encoded⟩ := (Writing.write_eq_ok utf8).mp written
  obtain ⟨root, meaning, read⟩ := Writing.exists_written_root utf8 accepted.keys checked encoded
  obtain ⟨all, -, denotes⟩ := (read source after).mp again
  refine ⟨all, fun b => ?_⟩
  rw [Reading.bindings_of_denotes denotes]
  exact Writing.mem_bindings_iff (Writing.namespaces_eq meaning all)

/-- An orderly catalog that was read settles. -/
theorem settles_of_canSettle {source : String} {content : Content} (utf8 : IsUtf8 layout)
    (read : (Reading.ofContent source content).outcome = .ok before)
    (can : CanSettle layout before) :
    ∃ r, (twice source layout content).outcome = .ok r ∧ r.Settles before := by
  have accepted := Reading.accepted_of_read read
  have checked := checked_of_orderly accepted can.orderly can.indent
  have readsBack := readsBack_of_orderly accepted can.orderly
  obtain ⟨bytes, written⟩ : ∃ bytes,
      (Writing.write layout before.privileges before.namespaces.bindings).outcome = .ok bytes :=
    ⟨_, (Writing.write_eq_ok utf8).mpr ⟨checked, rfl⟩⟩
  have encoded := ((Writing.write_eq_ok utf8).mp written).2
  obtain ⟨after, again, privileges⟩ :=
    Writing.exists_read_back utf8 accepted.keys checked encoded readsBack secondSource
  have accepted' := Reading.accepted_of_read again
  obtain ⟨-, bindings⟩ := mem_bindings_of_read_back utf8 accepted written again
  have same : ∀ b, b ∈ after.namespaces.bindings ↔ b ∈ before.namespaces.bindings := by
    intro b
    rw [bindings, mem_bindings_of_orderly accepted can.orderly]
  have declared_ : declared after.namespaces.bindings = declared before.namespaces.bindings := by
    refine (Writing.declared_eq_iff accepted'.keys accepted.keys).mpr fun b => ?_
    constructor
    · exact fun shown => ⟨(same b).mp shown.bound, shown.label, shown.uri⟩
    · exact fun shown => ⟨(same b).mpr shown.bound, shown.label, shown.uri⟩
  have written' := (Writing.write_congr utf8 declared_).mpr written
  rw [← privileges] at written'
  refine ⟨⟨before, bytes, after, bytes⟩, twice_eq_ok.mpr ⟨read, written, again, written'⟩, ?_⟩
  exact ⟨rfl, privileges, same_of_mem_bindings_iff accepted accepted' same, rfl⟩

/-- A catalog that settles is orderly. -/
theorem canSettle_of_settles {source : String} {content : Content} (utf8 : IsUtf8 layout)
    {r : Rounds} (done : (twice source layout content).outcome = .ok r)
    (settles : r.Settles before) : CanSettle layout before := by
  obtain ⟨read, written, again, -⟩ := twice_eq_ok.mp done
  rw [settles.start] at read written
  have accepted := Reading.accepted_of_read read
  have accepted' := Reading.accepted_of_read again
  obtain ⟨checked, -⟩ := (Writing.write_eq_ok utf8).mp written
  obtain ⟨all, bindings⟩ := mem_bindings_of_read_back utf8 accepted written again
  refine ⟨checked.indent, fun b inside => ?_⟩
  rw [← mem_bindings_iff_of_same accepted accepted' settles.namespaces, bindings] at inside
  rcases inside with shown | free
  · have held := Writing.mem_declared_iff.mpr shown
    exact .inr (.inr ⟨checked.declarable b held, List.all_eq_true.mp all b held⟩)
  · exact Reading.orderly_wellKnown b free.known

/-- A document that was read loses nothing when it is written and read again, and its second
writing gives the bytes of the first, exactly when it can be written again; and its bindings can
be when its type gives no declarations by default. -/
theorem rewriting_settles_iff (source : String) (layout : Layout) (utf8 : IsUtf8 layout)
    (content : Content) (before : Catalog)
    (read : (Reading.ofContent source content).outcome = .ok before) :
    ((∃ r, (twice source layout content).outcome = .ok r ∧ r.Settles before)
        ↔ CanSettle layout before)
      ∧ ((Reading.typeOf content).Silent → ∀ b ∈ before.namespaces.bindings, Orderly b) := by
  refine ⟨⟨?_, settles_of_canSettle utf8 read⟩, Reading.orderly_of_silent read⟩
  intro given
  rcases given with ⟨r, done, settles⟩
  exact canSettle_of_settles utf8 done settles

/-- A document with one privilege, which settles in the standard layout. -/
theorem rewriting_of_one_privilege :
    let content := Content.text "<privileges><privilege name='a'/></privileges>"
    let before : Catalog := ⟨[⟨⟨"a", rfl⟩, false, []⟩], (NamespaceTable.ofPairs wellKnown).freeze⟩
    IsUtf8 {} ∧ (Reading.ofContent "" content).outcome = .ok before
      ∧ ((∃ r, (twice "" {} content).outcome = .ok r ∧ r.Settles before) ↔ CanSettle {} before)
      ∧ ((Reading.typeOf content).Silent → ∀ b ∈ before.namespaces.bindings, Orderly b) := by
  intro content before
  have utf8 : IsUtf8 {} := by decide +kernel
  have read : (Reading.ofContent "" content).outcome = .ok before := by decide +kernel
  have main := rewriting_settles_iff "" {} utf8 content before read
  refine ⟨utf8, read, ?_⟩
  exact main

/-- Two documents that are read and do not settle: one is written with an indentation of
characters of XML that are not ASCII, and the type of the other gives a declaration whose
namespace is no reference. -/
theorem rewriting_does_not_settle :
    (∃ layout content before, IsUtf8 layout ∧ Xml.isXmlText layout.indent = true
        ∧ (Reading.ofContent "" content).outcome = .ok before
        ∧ ¬ ∃ r, (twice "" layout content).outcome = .ok r ∧ r.Settles before)
      ∧ ∃ content before, (Reading.ofContent "" content).outcome = .ok before
        ∧ ¬ ∃ r, (twice "" {} content).outcome = .ok r ∧ r.Settles before := by
  constructor
  · let layout : Layout := ⟨"\u00a0", "UTF-8", true⟩
    let content := Content.text "<privileges><privilege name='a'/></privileges>"
    let before : Catalog := ⟨[⟨⟨"a", rfl⟩, false, []⟩], (NamespaceTable.ofPairs wellKnown).freeze⟩
    have utf8 : IsUtf8 layout := by decide +kernel
    have read : (Reading.ofContent "" content).outcome = .ok before := by decide +kernel
    refine ⟨layout, content, before, utf8, by decide +kernel, read, ?_⟩
    intro given
    rcases given with ⟨r, done, settles⟩
    have indent := (canSettle_of_settles utf8 done settles).indent
    exact absurd indent (by decide +kernel)
  · let content := Content.text
      "<!DOCTYPE privileges [<!ATTLIST privileges xmlns:p CDATA 'a b'>]><privileges/>"
    let before : Catalog := ⟨[], (NamespaceTable.ofPairs (("p", "a b") :: wellKnown)).freeze⟩
    have utf8 : IsUtf8 {} := by decide +kernel
    have read : (Reading.ofContent "" content).outcome = .ok before := by decide +kernel
    refine ⟨content, before, read, ?_⟩
    intro given
    rcases given with ⟨r, done, settles⟩
    have all := (canSettle_of_settles utf8 done settles).orderly
    exact absurd (all ("p", "a b") (List.mem_cons_self ..)) (by decide +kernel)

end PrivilegeCatalog.RoundTrip
