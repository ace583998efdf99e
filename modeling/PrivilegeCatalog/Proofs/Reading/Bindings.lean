import Mathlib.Data.List.Induction
import Mathlib.Data.List.Nodup
import PrivilegeCatalog.Proofs.NamespaceTable.OneToOne
import PrivilegeCatalog.Proofs.Reading.Walk

/-!
# What a reading binds

Declarations are bound one after another. They are taken up exactly when they are one-to-one among
themselves, those under the empty label left aside, and then the table holds each of them once
(`declareAll_ok`). In the end the well-known bindings fill the gaps (`addDefaults_tableOf`).
-/

namespace PrivilegeCatalog.Reading

open Vocabulary

variable {source : String}

/-! ## Declarations -/

/-- The declarations that are bound: those under a label. -/
def labelled (declarations : List (String × String)) : List (String × String) :=
  declarations.filter (·.1 ≠ "")

/-- The table of the pairs that have been declared, each of them once. -/
def tableOf (declared : List (String × String)) : NamespaceTable :=
  NamespaceTable.ofPairs declared.eraseDups

theorem oneToOne_eraseDups {pairs : List (String × String)} :
    OneToOne pairs.eraseDups ↔ OneToOne pairs :=
  OneToOne.congr fun _ => List.mem_eraseDups

theorem oneToOne_eraseDups_append {pairs more : List (String × String)} :
    OneToOne (pairs.eraseDups ++ more) ↔ OneToOne (pairs ++ more) :=
  OneToOne.congr fun b => by simp [List.mem_eraseDups]

theorem eraseDups_append_singleton (pairs : List (String × String)) (b : String × String) :
    (pairs ++ [b]).eraseDups
      = if b ∈ pairs.eraseDups then pairs.eraseDups else pairs.eraseDups ++ [b] := by
  rw [List.eraseDups_append]
  by_cases inside : b ∈ pairs
  · rw [if_pos (List.mem_eraseDups.mpr inside)]
    simp [List.removeAll, inside]
  · rw [if_neg fun h => inside (List.mem_eraseDups.mp h)]
    simp [List.removeAll, inside, List.eraseDups_cons]

theorem nodup_eraseDups (pairs : List (String × String)) : pairs.eraseDups.Nodup := by
  induction pairs using List.reverseRecOn with
  | nil => exact .nil
  | append_singleton rest b ih =>
    rw [eraseDups_append_singleton]
    split
    case isTrue => exact ih
    case isFalse new =>
      refine ih.append (List.nodup_singleton b) ?_
      intro a inside same
      rw [List.mem_singleton.mp same] at inside
      exact new inside

/-- A declaration is bound when it is one-to-one with those before it. -/
theorem declareIn_ok {declared : List (String × String)} (h : OneToOne declared)
    {label uri : String} {table : NamespaceTable} :
    (declareIn source (tableOf declared) label uri).outcome = .ok table ↔
      OneToOne (declared ++ labelled [(label, uri)])
        ∧ table = tableOf (declared ++ labelled [(label, uri)]) := by
  unfold declareIn
  by_cases default_ : label = ""
  · subst default_
    rw [if_pos rfl, Logged.outcome_note_bind, Logged.outcome_pure, Except.ok.injEq,
      show labelled [("", uri)] = [] from rfl, List.append_nil]
    exact ⟨fun same => ⟨h, same.symm⟩, fun given => given.2.symm⟩
  · have kept : labelled [(label, uri)] = [(label, uri)] := by simp [labelled, default_]
    rw [if_neg default_, Logged.outcome_mapError_eq_ok, kept, NamespaceTable.Effect.logged]
    have once := oneToOne_eraseDups.mpr h
    have answer := @NamespaceTable.bind_ofPairs_ok declared.eraseDups label uri once
    rw [oneToOne_eraseDups_append] at answer
    constructor
    · intro bound
      unfold tableOf at bound
      cases answered : ((NamespaceTable.ofPairs declared.eraseDups).bind label uri).answer with
      | error fault => simp [answered, Except.map] at bound
      | ok _ =>
        have oneToOne := answer.mp answered
        have table_ := NamespaceTable.bind_ofPairs_table (oneToOne_eraseDups_append.mpr oneToOne)
        simp only [answered, Except.map, table_, Except.ok.injEq] at bound
        exact ⟨oneToOne, by rw [tableOf, eraseDups_append_singleton, bound]⟩
    · intro given
      rcases given with ⟨oneToOne, same⟩
      subst same
      have answered := answer.mpr oneToOne
      have table_ := NamespaceTable.bind_ofPairs_table (oneToOne_eraseDups_append.mpr oneToOne)
      simp only [tableOf, answered, Except.map, table_, eraseDups_append_singleton]

/-- Declarations are bound when they are one-to-one, and then the table holds each of them
once. -/
theorem declareAll_ok {declared declarations : List (String × String)} (h : OneToOne declared)
    {table : NamespaceTable} :
    (declareAll source (tableOf declared) declarations).outcome = .ok table ↔
      OneToOne (declared ++ labelled declarations)
        ∧ table = tableOf (declared ++ labelled declarations) := by
  induction declarations generalizing declared with
  | nil =>
    rw [declareAll, Logged.outcome_pure, Except.ok.injEq, labelled, List.filter_nil,
      List.append_nil]
    exact ⟨fun same => ⟨h, same.symm⟩, fun given => given.2.symm⟩
  | cons b rest ih =>
    obtain ⟨label, uri⟩ := b
    have cut : declared ++ labelled ((label, uri) :: rest)
        = declared ++ labelled [(label, uri)] ++ labelled rest := by
      rw [List.append_assoc, labelled, labelled, labelled, ← List.filter_append,
        List.singleton_append]
    rw [declareAll, Logged.outcome_bind_eq_ok, cut]
    constructor
    · intro bound
      rcases bound with ⟨table', first, others⟩
      obtain ⟨oneToOne, same⟩ := (declareIn_ok h).mp first
      subst same
      exact (ih oneToOne).mp others
    · intro given
      rcases given with ⟨oneToOne, same⟩
      have first := oneToOne.of_subset (List.subset_append_left _ _)
      exact ⟨_, (declareIn_ok h).mpr ⟨first, rfl⟩, (ih first).mpr ⟨oneToOne, same⟩⟩

/-! ## The well-known bindings -/

/-- The bindings after the well-known ones have been added to those that were declared. -/
def completed (declared : List (String × String)) : List (String × String) :=
  declared.eraseDups ++ wellKnown.filter (NamespaceTable.isFree declared)

theorem addDefaults_tableOf {declared : List (String × String)} (h : OneToOne declared) :
    ((tableOf declared).addDefaults wellKnown).table = NamespaceTable.ofPairs (completed declared)
      ∧ ((tableOf declared).addDefaults wellKnown).answer = .ok () := by
  have added := @NamespaceTable.addDefaults_ofPairs _ wellKnown (oneToOne_eraseDups.mpr h)
  have same : NamespaceTable.isFree declared.eraseDups = NamespaceTable.isFree declared := by
    funext b
    rw [Bool.eq_iff_iff, NamespaceTable.isFree_eq_true, NamespaceTable.isFree_eq_true]
    simp only [List.mem_eraseDups]
  rw [NamespaceTable.fillGaps_eq_filter NamespaceTable.oneToOne_wellKnown
    NamespaceTable.nodup_wellKnown, same] at added
  exact added

/-- The well-known bindings are added without a fault. -/
theorem outcome_addDefaults {declared : List (String × String)} (h : OneToOne declared)
    (f : TableFault → ReadFault) :
    (((tableOf declared).addDefaults wellKnown).logged.mapError f).outcome
      = .ok (NamespaceTable.ofPairs (completed declared)) := by
  obtain ⟨table, answer⟩ := addDefaults_tableOf h
  rw [Logged.outcome_mapError_eq_ok, NamespaceTable.Effect.logged]
  simp only [answer, Except.map, table]

theorem oneToOne_completed {declared : List (String × String)} (h : OneToOne declared) :
    OneToOne (completed declared) := by
  have filled := @NamespaceTable.oneToOne_fillGaps declared wellKnown h
  rw [NamespaceTable.fillGaps_eq_filter NamespaceTable.oneToOne_wellKnown
    NamespaceTable.nodup_wellKnown] at filled
  exact oneToOne_eraseDups_append.mpr filled

theorem mem_completed {declared : List (String × String)} {b : String × String} :
    b ∈ completed declared ↔
      b ∈ declared ∨ b ∈ wellKnown ∧ ∀ a ∈ declared, a.1 ≠ b.1 ∧ a.2 ≠ b.2 := by
  rw [completed, List.mem_append, List.mem_eraseDups, List.mem_filter,
    NamespaceTable.isFree_eq_true]

end PrivilegeCatalog.Reading
