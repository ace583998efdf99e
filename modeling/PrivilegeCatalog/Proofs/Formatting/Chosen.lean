import PrivilegeCatalog.Proofs.Formatting.Meaning
import PrivilegeCatalog.Proofs.NamespaceTable.AnyOrder
import PrivilegeCatalog.Proofs.Reading.FirstFault

/-!
# Which namespaces are chosen

Of the bindings of a document those are chosen that are not well-known, and those whose label is
used (`Chosen`). They are one-to-one because all of them are, so further pairs can only fail to
agree with one of them or with one another, in one half alone (`not_oneToOne_append`). The pair
that is refused is then the first that contradicts one before it (`bindAll_error`), and without
further pairs none is (`chosen_namespaces`).
-/

namespace PrivilegeCatalog

/-- The pairs agree in exactly one half. -/
def HalfAgree (a b : String × String) : Prop := a.1 = b.1 ∧ a.2 ≠ b.2 ∨ a.1 ≠ b.1 ∧ a.2 = b.2

theorem halfAgree_iff {a b : String × String} : HalfAgree a b ↔ ¬ (a.1 = b.1 ↔ a.2 = b.2) := by
  unfold HalfAgree
  tauto

theorem HalfAgree.symm {a b : String × String} (half : HalfAgree a b) : HalfAgree b a := by
  rw [halfAgree_iff] at half ⊢
  rwa [eq_comm, @eq_comm _ b.2]

/-- Further pairs are not one-to-one with others that are so when one of them agrees with another
pair in exactly one half. -/
theorem not_oneToOne_append {pairs more : List (String × String)} (h : OneToOne pairs) :
    ¬ OneToOne (pairs ++ more) ↔ ∃ e ∈ more, ∃ b, (b ∈ pairs ∨ b ∈ more) ∧ HalfAgree e b := by
  constructor
  · intro refused
    simp only [OneToOne, not_forall, ← halfAgree_iff] at refused
    obtain ⟨a, first, b, second, half⟩ := refused
    rcases List.mem_append.mp first with own | further
    · rcases List.mem_append.mp second with own' | further'
      · exact absurd (h a own b own') (halfAgree_iff.mp half)
      · exact ⟨b, further', a, .inl own, half.symm⟩
    · exact ⟨a, further, b, List.mem_append.mp second, half⟩
  · intro given all
    rcases given with ⟨e, further, b, other, half⟩
    have agree := all e (List.mem_append_right _ further) b (List.mem_append.mpr other)
    exact halfAgree_iff.mp half agree

namespace Formatting

open Reading (Accepted answer_bind_tableOf tableOf)
open Xml (Content contradicted?)

/-! ## Pairs that are refused -/

section

variable {bound more : List (String × String)} {fault : TableFault}

/-- A pair and the binding that it contradicts agree in exactly one half. -/
theorem of_contradicted {b existing : String × String}
    (found : contradicted? bound b = some existing) :
    existing ∈ bound ∧ HalfAgree b existing := by
  unfold contradicted? at found
  split at found
  case h_1 a first =>
    cases found
    have differs := List.find?_some first
    obtain ⟨label, uri⟩ := of_decide_eq_true differs
    exact ⟨List.mem_of_find?_eq_some first, .inl ⟨label.symm, uri.symm⟩⟩
  case h_2 =>
    have differs := List.find?_some found
    obtain ⟨uri, label⟩ := of_decide_eq_true differs
    exact ⟨List.mem_of_find?_eq_some found, .inr ⟨label.symm, uri.symm⟩⟩

/-- Of pairs that are bound one after another the first that contradicts one before it is
refused. -/
theorem bindAll_error (h : OneToOne bound)
    (refused : ((tableOf bound).bindAll more).logged.outcome = .error fault) :
    ∃ before b after existing, more = before ++ b :: after ∧ OneToOne (bound ++ before)
      ∧ contradicted? (bound ++ before) b = some existing
      ∧ fault = .conflict b.1 b.2 existing := by
  induction more generalizing bound with
  | nil => cases refused
  | cons b rest ih =>
    obtain ⟨label, uri⟩ := b
    rw [NamespaceTable.bindAll, NamespaceTable.Effect.logged] at refused
    cases answered : ((tableOf bound).bind label uri).answer with
    | error first =>
      rw [answered] at refused
      cases refused
      rw [answer_bind_tableOf h] at answered
      cases found : contradicted? bound (label, uri) with
      | none =>
        rw [found] at answered
        cases answered
      | some existing =>
        rw [found] at answered
        cases answered
        refine ⟨[], (label, uri), rest, existing, rfl, ?_, ?_, rfl⟩
        · rwa [List.append_nil]
        · rwa [List.append_nil]
    | ok _ =>
      have fits := (bind_tableOf_ok h).mp answered
      rw [answered, bind_tableOf_table fits] at refused
      obtain ⟨before, b, after, existing, cut, fit, found, same⟩ := ih fits refused
      rw [List.append_assoc] at fit found
      exact ⟨(label, uri) :: before, b, after, existing, congrArg _ cut, fit, found, same⟩

end

/-! ## Documents -/

/-- The bindings of a document that are chosen: those that differ from the well-known one of their
label, and those whose label is used. -/
def Chosen (catalog : Catalog) (b : String × String) : Prop :=
  b ∈ catalog.namespaces.bindings
    ∧ (Dictionary.find? wellKnown b.1 ≠ some b.2 ∨ Uses catalog.privileges b.1)

/-- Some further pair agrees in exactly one half with a binding that is chosen, or with another
further pair. -/
def Clashes (catalog : Catalog) (extra : Dictionary) : Prop :=
  ∃ e ∈ extra, ∃ b, (Chosen catalog b ∨ b ∈ extra) ∧ HalfAgree e b

section

variable {source : String} {content : Content} {catalog : Catalog} {extra : Dictionary}

theorem chosen_iff {b : String × String} : Chosen catalog b ↔ b ∈ kept catalog := by
  rw [Chosen, mem_kept, ne_eq, Dictionary.find?_eq_some NamespaceTable.oneToOne_wellKnown,
    imp_iff_not_or]

theorem mem_shown_iff {b : String × String} :
    b ∈ shown catalog extra ↔ Chosen catalog b ∨ b ∈ extra := by
  rw [mem_shown, chosen_iff]

/-- The table of a document that was read holds its pairs in both directions. -/
theorem bijective_of_accepted (accepted : Accepted catalog) : catalog.namespaces.Bijective := by
  refine ⟨Apart.iff_oneToOne.mpr ⟨accepted.oneToOne, accepted.once⟩, ?_⟩
  rw [accepted.table]
  rfl

/-- What a document shows is one-to-one unless the further pairs clash, since its own bindings
are. -/
theorem not_oneToOne_shown (accepted : Accepted catalog) :
    ¬ OneToOne (shown catalog extra) ↔ Clashes catalog extra := by
  have own := oneToOne_kept accepted.oneToOne
  simp only [shown, Reading.oneToOne_eraseDups, not_oneToOne_append own, Clashes, chosen_iff]

/-- The further pair that is refused is the first that does not fit, and the binding that it
contradicts is named. -/
theorem namespaces_error (accepted : Accepted catalog) {fault : TableFault}
    (refused : (namespaces catalog extra).outcome = .error fault) :
    ∃ before e after b, extra = before ++ e :: after
      ∧ (∃ table, (namespaces catalog before).outcome = .ok table)
      ∧ (Chosen catalog b ∨ b ∈ before) ∧ HalfAgree e b ∧ fault = .conflict e.1 e.2 b := by
  have own := oneToOne_kept accepted.oneToOne
  rw [namespaces, Logged.outcome_bind_eq_error, outcome_ofBindings own] at refused
  rcases refused with first | ⟨table, same, later⟩
  · cases first
  · cases same
    rcases Logged.outcome_bind_eq_error.mp later with refused | ⟨_, -, done⟩
    · obtain ⟨before, e, after, b, cut, fit, found, fault⟩ := bindAll_error own refused
      obtain ⟨earlier, half⟩ := of_contradicted found
      have shown_ := Reading.oneToOne_eraseDups.mpr fit
      refine ⟨before, e, after, b, cut, ?_, ?_, half, fault⟩
      · exact ⟨_, (namespaces_ok accepted.oneToOne).mpr ⟨shown_, rfl⟩⟩
      · rwa [chosen_iff, ← List.mem_append]
    · cases done

/-- Namespaces are put together when the further pairs fit. -/
theorem namespaces_ok_iff (accepted : Accepted catalog) :
    (∃ table, (namespaces catalog extra).outcome = .ok table) ↔ ¬ Clashes catalog extra := by
  rw [← not_oneToOne_shown accepted, not_not]
  constructor
  · intro given
    obtain ⟨table, done⟩ := given
    exact ((namespaces_ok accepted.oneToOne).mp done).1
  · exact fun oneToOne => ⟨_, (namespaces_ok accepted.oneToOne).mpr ⟨oneToOne, rfl⟩⟩

theorem namespaces_error_iff (accepted : Accepted catalog) :
    (∃ fault, (namespaces catalog extra).outcome = .error fault) ↔ Clashes catalog extra := by
  rw [← not_iff_not, ← namespaces_ok_iff accepted]
  cases (namespaces catalog extra).outcome with
  | ok table => exact iff_of_true nofun ⟨table, rfl⟩
  | error fault => exact iff_of_false (fun none_ => none_ ⟨fault, rfl⟩) nofun

/-- What is known of the namespaces that were chosen. -/
theorem namespaces_spec (accepted : Accepted catalog) {table : NamespaceTable}
    (done : (namespaces catalog extra).outcome = .ok table) :
    table.frozen = true ∧ table.Bijective
      ∧ ∀ b, b ∈ table.bindings ↔ Chosen catalog b ∨ b ∈ extra := by
  obtain ⟨oneToOne, rfl⟩ := (namespaces_ok accepted.oneToOne).mp done
  have apart : Apart (shown catalog extra) :=
    Apart.iff_oneToOne.mpr ⟨oneToOne, Reading.nodup_eraseDups _⟩
  exact ⟨rfl, ⟨apart, rfl⟩, fun b => mem_shown_iff⟩

/-- The namespaces of a document that was read, and further ones, are put together unless one of
the further pairs agrees in exactly one half with a binding that was chosen, or with another
further pair; then the first such pair is refused for a conflict. So without further pairs nothing
can go wrong. The table is frozen and holds just the pairs that were chosen and the further ones,
and every label that is used resolves as it did in the document. -/
theorem chosen_namespaces (source : String) (content : Content) (catalog : Catalog)
    (read : (Reading.ofContent source content).outcome = .ok catalog) (extra : Dictionary) :
    ((∃ fault, (namespaces catalog extra).outcome = .error fault) ↔ Clashes catalog extra)
      ∧ ((∃ table, (namespaces catalog extra).outcome = .ok table) ↔ ¬ Clashes catalog extra)
      ∧ (∀ fault, (namespaces catalog extra).outcome = .error fault →
          ∃ before e after b, extra = before ++ e :: after
            ∧ (∃ table, (namespaces catalog before).outcome = .ok table)
            ∧ (Chosen catalog b ∨ b ∈ before) ∧ HalfAgree e b ∧ fault = .conflict e.1 e.2 b)
      ∧ (∃ table, (namespaces catalog []).outcome = .ok table)
      ∧ ∀ table, (namespaces catalog extra).outcome = .ok table →
          table.frozen = true
            ∧ (∀ b, b ∈ table.bindings ↔ Chosen catalog b ∨ b ∈ extra)
            ∧ (∀ label uri, table.resolveLabel label = .ok uri
                ↔ Chosen catalog (label, uri) ∨ (label, uri) ∈ extra)
            ∧ ∀ label, Uses catalog.privileges label → ∃ uri,
                catalog.namespaces.resolveLabel label = .ok uri
                  ∧ table.resolveLabel label = .ok uri := by
  have accepted := Reading.accepted_of_read read
  refine ⟨namespaces_error_iff accepted, namespaces_ok_iff accepted,
    fun _ => namespaces_error accepted, (namespaces_ok_iff accepted).mpr ?_, fun table done => ?_⟩
  · intro clashes
    obtain ⟨e, further, -⟩ := clashes
    exact List.not_mem_nil further
  · obtain ⟨frozen, bijective, bindings⟩ := namespaces_spec accepted done
    refine ⟨frozen, bindings, fun label uri => ?_, fun label uses => ?_⟩
    · rw [bijective.resolveLabel_iff, bindings]
    · obtain ⟨uri, bound⟩ := exists_bound_of_uses accepted uses
      refine ⟨uri, (bijective_of_accepted accepted).resolveLabel_iff.mpr bound, ?_⟩
      exact bijective.resolveLabel_iff.mpr ((bindings _).mpr (.inl ⟨bound, .inr uses⟩))

/-- A document that binds a well-known label and a well-known URI in other ways and uses one
well-known label. A label and a URI that are not chosen are free for further pairs, the URI of a
binding that is chosen is not. -/
theorem labels_that_are_not_chosen_are_free :
    let content :=
      Content.text ("<privileges xmlns:jcr='urn:x' xmlns:n='http://www.jcp.org/jcr/nt/1.0'>"
      ++ "<privilege name='mix:a'/></privileges>")
    let free := wellKnown.filter fun b => b.1 ≠ "jcr" ∧ b.1 ≠ "nt"
    let catalog : Catalog := ⟨[⟨⟨"mix:a", rfl⟩, false, []⟩],
      (NamespaceTable.ofPairs
        (("jcr", "urn:x") :: ("n", "http://www.jcp.org/jcr/nt/1.0") :: free)).freeze⟩
    let table : NamespaceTable := (NamespaceTable.ofPairs
      [("jcr", "urn:x"), ("n", "http://www.jcp.org/jcr/nt/1.0"),
       ("mix", "http://www.jcp.org/jcr/mix/1.0"),
        ("sv", "urn:y"), ("r", "internal")]).freeze
    (Reading.ofContent "" content).outcome = .ok catalog
      ∧ (namespaces catalog [("sv", "urn:y"), ("r", "internal")]).outcome = .ok table
      ∧ (∃ uri, catalog.namespaces.resolveLabel "mix" = .ok uri
        ∧ table.resolveLabel "mix" = .ok uri)
      ∧ ∃ fault, (namespaces catalog [("sv", "urn:y"), ("r", "urn:x")]).outcome
        = .error fault := by
  intro content free catalog table
  have read : (Reading.ofContent "" content).outcome = .ok catalog := by decide +kernel
  have done : (namespaces catalog [("sv", "urn:y"), ("r", "internal")]).outcome = .ok table := by
    decide +kernel
  have uses : Uses catalog.privileges "mix" :=
    ⟨_, List.mem_singleton_self _, _, List.mem_cons_self .., by decide⟩
  have chosen : Chosen catalog ("jcr", "urn:x") := ⟨List.mem_cons_self .., .inl (by decide)⟩
  refine ⟨read, done, ?_, ?_⟩
  · obtain ⟨-, -, -, -, spec⟩ := chosen_namespaces "" content catalog read _
    obtain ⟨-, -, -, kept_⟩ := spec table done
    exact kept_ "mix" uses
  · apply (chosen_namespaces "" content catalog read _).1.mpr
    exact ⟨("r", "urn:x"), by simp, ("jcr", "urn:x"), .inl chosen, .inr ⟨by decide, rfl⟩⟩

end

end Formatting

end PrivilegeCatalog
