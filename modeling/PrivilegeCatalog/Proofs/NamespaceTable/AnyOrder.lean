import PrivilegeCatalog.Proofs.Formatting.Namespaces
import PrivilegeCatalog.Proofs.NamespaceTable.Reachable

/-!
# Pairs are bound in any order

Which of several pairs a table refuses depends on the order in which they are bound. Whether it
refuses one does not: all are accepted exactly when they are one-to-one, and then the table holds
just these pairs (`order_does_not_matter`). The reason is that after pairs that were accepted the
table is the one of all pairs so far, each of them once (`runAll_binds`). A table is copied by
binding its pairs again, so every copy succeeds.
-/

namespace PrivilegeCatalog.NamespaceTable

open Reading (tableOf oneToOne_eraseDups oneToOne_eraseDups_append nodup_eraseDups
  eraseDups_append_singleton)

variable {t : NamespaceTable} {pairs : List (String × String)} {label uri : String}

/-- Commands that bind pairs one after another. -/
def binds (pairs : List (String × String)) : List Command := pairs.map fun b => .bind b.1 b.2

/-- Of pairs that are bound one after another into the empty table, none is refused. -/
def AllAccepted (pairs : List (String × String)) : Prop :=
  ∀ before label uri after, pairs = before ++ (label, uri) :: after →
    ((empty.runAll (binds before)).run (.bind label uri)).answer = .ok .nothing

/-- Of pairs that are bound one after another into the empty table, one is refused because the
label or the URI is bound in another way. -/
def SomeConflicts (pairs : List (String × String)) : Prop :=
  ∃ before label uri after existing, pairs = before ++ (label, uri) :: after
    ∧ ((empty.runAll (binds before)).run (.bind label uri)).answer
      = .error (.table (.conflict label uri existing))

/-! ## One pair -/

theorem runAll_binds_append_singleton (b : String × String) :
    t.runAll (binds (pairs ++ [b])) = ((t.runAll (binds pairs)).bind b.1 b.2).table := by
  rw [binds, List.map_append, runAll, List.foldl_append]
  rfl

/-- A table that is not frozen accepts a pair or has a binding that stands against it. -/
theorem run_bind_cases (unfrozen : t.frozen = false) (label uri : String) :
    (t.run (.bind label uri)).answer = .ok .nothing
      ∨ ∃ existing,
          (t.run (.bind label uri)).answer = .error (.table (.conflict label uri existing)) := by
  rw [run, bind, if_neg (by simp [unfrozen])]
  cases t.conflictWith? label uri with
  | some existing => exact .inr ⟨existing, rfl⟩
  | none =>
    left
    dsimp only
    split <;> rfl

theorem frozen_bind (t : NamespaceTable) (label uri : String) :
    (t.bind label uri).table.frozen = t.frozen := by
  unfold bind
  split
  · rfl
  · split
    · rfl
    · split <;> rfl

theorem frozen_runAll_binds (pairs : List (String × String)) :
    (t.runAll (binds pairs)).frozen = t.frozen := by
  induction pairs using List.reverseRecOn with
  | nil => rfl
  | append_singleton rest b ih => rw [runAll_binds_append_singleton, frozen_bind, ih]

/-! ## All pairs -/

theorem bijective_tableOf (oneToOne : OneToOne pairs) : (tableOf pairs).Bijective :=
  ⟨Apart.iff_oneToOne.mpr ⟨oneToOne_eraseDups.mpr oneToOne, nodup_eraseDups pairs⟩, rfl⟩

/-- After pairs that are one-to-one the table holds each of them once. -/
theorem runAll_binds (oneToOne : OneToOne pairs) :
    empty.runAll (binds pairs) = tableOf pairs := by
  induction pairs using List.reverseRecOn with
  | nil => rfl
  | append_singleton rest b ih =>
    rw [runAll_binds_append_singleton, ih (oneToOne.of_subset (List.subset_append_left _ _))]
    exact Formatting.bind_tableOf_table oneToOne

/-- After pairs that are one-to-one a further pair is accepted when it is so with them. -/
theorem run_bind_ok (oneToOne : OneToOne pairs) :
    ((empty.runAll (binds pairs)).run (.bind label uri)).answer = .ok .nothing ↔
      OneToOne (pairs ++ [(label, uri)]) := by
  rw [runAll_binds oneToOne, bind_ok_iff (bijective_tableOf oneToOne)]
  exact (and_iff_right rfl).trans oneToOne_eraseDups_append

/-- Pairs are accepted exactly when they are one-to-one. -/
theorem allAccepted_iff : AllAccepted pairs ↔ OneToOne pairs := by
  constructor
  · intro accepted
    induction pairs using List.reverseRecOn with
    | nil => exact .nil
    | append_singleton rest b ih =>
      have oneToOne : OneToOne rest := by
        refine ih fun before label uri after split => accepted before label uri (after ++ [b]) ?_
        rw [split, List.append_assoc, List.cons_append]
      exact (run_bind_ok oneToOne).mp (accepted rest b.1 b.2 [] rfl)
  · intro oneToOne before label uri after split
    have first : before ++ [(label, uri)] ⊆ pairs := by
      intro b inside
      rw [split, List.append_cons]
      exact List.mem_append_left after inside
    have fits := oneToOne.of_subset first
    exact (run_bind_ok (fits.of_subset (List.subset_append_left _ _))).mpr fits

/-- A pair that is not accepted is refused for a conflict, since nothing freezes the table. -/
theorem someConflicts_iff : SomeConflicts pairs ↔ ¬ AllAccepted pairs := by
  constructor
  · intro conflicts accepted
    rcases conflicts with ⟨before, label, uri, after, existing, split, refused⟩
    rw [accepted before label uri after split] at refused
    cases refused
  · intro refused
    simp only [AllAccepted, not_forall] at refused
    obtain ⟨before, label, uri, after, split, refused⟩ := refused
    have unfrozen : (empty.runAll (binds before)).frozen = false := frozen_runAll_binds before
    obtain ⟨existing, conflict⟩ := (run_bind_cases unfrozen label uri).resolve_left refused
    exact ⟨before, label, uri, after, existing, split, conflict⟩

/-- Two dictionaries with the same one-to-one pairs, each of them once, are the same. -/
theorem same_of_mem_iff {first second : Dictionary} (apart : Apart first) (apart' : Apart second)
    (mem : ∀ b, b ∈ first ↔ b ∈ second) : Dictionary.same first second = true := by
  have length : first.length = second.length :=
    ((List.perm_ext_iff_of_nodup (Apart.iff_oneToOne.mp apart).2
      (Apart.iff_oneToOne.mp apart').2).mpr mem).length_eq
  rw [Dictionary.same, length, beq_self_eq_true, Bool.true_and, List.all_eq_true]
  intro b inside
  rw [beq_iff_eq, Dictionary.find?_eq_some apart'.oneToOne]
  exact (mem b).mp inside

/-! ## Copies -/

theorem eraseDups_of_nodup (once : pairs.Nodup) : pairs.eraseDups = pairs := by
  induction pairs using List.reverseRecOn with
  | nil => rfl
  | append_singleton rest b ih =>
    have kept := ih (once.sublist (List.sublist_append_left _ _))
    have new : b ∉ rest := fun inside => List.disjoint_of_nodup_append once inside (by simp)
    rw [eraseDups_append_singleton, kept, if_neg new]

/-- A table is copied by binding its pairs, which were bound together before. -/
theorem frozenOfBindings_bindings (h : t.Bijective) :
    (frozenOfBindings t.bindings).outcome = .ok t.freeze := by
  have bound := Formatting.outcome_ofBindings h.apart.oneToOne
  have once : t.bindings.eraseDups = t.bindings :=
    eraseDups_of_nodup (Apart.iff_oneToOne.mp h.apart).2
  have table : (tableOf t.bindings).freeze = t.freeze := by
    rw [tableOf, once, ofPairs, ← h.labels]
    rfl
  rw [frozenOfBindings, Logged.outcome_bind_eq_ok]
  exact ⟨_, bound, congrArg Except.ok table⟩

/-! ## Any order -/

/-- Pairs that are bound one after another into the empty table are all accepted exactly when no
two of them agree in one half alone, and otherwise one of them is refused for a conflict; when
they are accepted, labels and URIs are resolved as the pairs say. So pairs in another order or
number are accepted alike and make up the same table. A copy of a table is never refused, and is
the same table, frozen. -/
theorem order_does_not_matter :
    (∀ pairs, (AllAccepted pairs ↔ OneToOne pairs) ∧ (SomeConflicts pairs ↔ ¬ OneToOne pairs))
      ∧ (∀ pairs, AllAccepted pairs → ∀ label uri,
          ((empty.runAll (binds pairs)).resolveLabel label = .ok uri ↔ (label, uri) ∈ pairs)
            ∧ ((empty.runAll (binds pairs)).resolveUri uri = .ok label ↔ (label, uri) ∈ pairs))
      ∧ (∀ first second : List (String × String), (∀ b, b ∈ first ↔ b ∈ second) →
          (AllAccepted first ↔ AllAccepted second)
            ∧ (SomeConflicts first ↔ SomeConflicts second)
            ∧ (AllAccepted first → Dictionary.same (empty.runAll (binds first)).bindings
                (empty.runAll (binds second)).bindings = true))
      ∧ (∀ t : NamespaceTable, t.Reachable → ∃ copy,
          (frozenOfBindings t.bindings).outcome = .ok copy ∧ copy.frozen = true
            ∧ copy.uris = t.uris ∧ copy.labels = t.labels) := by
  have conflicts : ∀ pairs, SomeConflicts pairs ↔ ¬ OneToOne pairs :=
    fun pairs => someConflicts_iff.trans (not_congr allAccepted_iff)
  refine ⟨fun pairs => ⟨allAccepted_iff, conflicts pairs⟩, ?_, ?_, ?_⟩
  · intro pairs accepted label uri
    have oneToOne := allAccepted_iff.mp accepted
    have h := bijective_tableOf oneToOne
    rw [runAll_binds oneToOne, h.resolveLabel_iff, h.resolveUri_iff]
    exact ⟨List.mem_eraseDups, List.mem_eraseDups⟩
  · intro first second mem
    have alike : OneToOne first ↔ OneToOne second := OneToOne.congr mem
    refine ⟨?_, ?_, fun accepted => ?_⟩
    · rw [allAccepted_iff, allAccepted_iff, alike]
    · rw [conflicts, conflicts, alike]
    · have oneToOne := allAccepted_iff.mp accepted
      have oneToOne' := alike.mp oneToOne
      rw [runAll_binds oneToOne, runAll_binds oneToOne']
      refine same_of_mem_iff (bijective_tableOf oneToOne).apart
        (bijective_tableOf oneToOne').apart ?_
      intro b
      exact List.mem_eraseDups.trans ((mem b).trans List.mem_eraseDups.symm)
  · intro t reachable
    exact ⟨t.freeze, frozenOfBindings_bindings reachable.bijective, rfl, rfl, rfl⟩

/-- Pairs in which the empty text is a label and a URI, in two orders and with a repetition. -/
theorem empty_texts_in_any_order :
    let first := [("", "u"), ("p", ""), ("", "u")]
    let second := [("p", ""), ("", "u")]
    (∀ b, b ∈ first ↔ b ∈ second) ∧ AllAccepted first ∧ AllAccepted second
      ∧ Dictionary.same (empty.runAll (binds first)).bindings
        (empty.runAll (binds second)).bindings = true := by
  intro first second
  have mem : ∀ b, b ∈ first ↔ b ∈ second := by
    intro b
    simp only [first, second, List.mem_cons, List.not_mem_nil, or_false]
    exact ⟨fun inside => by tauto, fun inside => by tauto⟩
  have oneToOne : OneToOne first := by
    unfold OneToOne
    decide
  obtain ⟨accepts, -, alike, -⟩ := order_does_not_matter
  have accepted := (accepts first).1.mpr oneToOne
  obtain ⟨both, -, same⟩ := alike first second mem
  exact ⟨mem, accepted, both.mp accepted, same accepted⟩

end PrivilegeCatalog.NamespaceTable
