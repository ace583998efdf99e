import Mathlib.Data.List.Pairwise
import PrivilegeCatalog.NamespaceTable.Command
import PrivilegeCatalog.Proofs.NamespaceTable.OneToOne

/-!
# What a command changes

A table is bijective when both of its directions hold the same pairs and no two of these share a
half. `run_change` says once what a command can do to such a table: it leaves the table as it is,
it freezes it, or it adds pairs at the end of one that is not frozen. Only a command that succeeds
does the last two. What commands keep, one by one and in any number, is read off from that.
-/

namespace PrivilegeCatalog

/-! ## Pairs that share no half -/

/-- Pairs of which no two share a half. -/
def Apart (pairs : List (String × String)) : Prop :=
  pairs.Pairwise fun a b => a.1 ≠ b.1 ∧ a.2 ≠ b.2

namespace Apart

variable {pairs defaults : List (String × String)} {b : String × String}

/-- They are one-to-one, and none of them occurs twice. -/
theorem iff_oneToOne : Apart pairs ↔ OneToOne pairs ∧ pairs.Nodup := by
  constructor
  · intro apart
    have : Std.Symm fun a b : String × String => a.1 ≠ b.1 ∧ a.2 ≠ b.2 :=
      ⟨fun _ _ h => ⟨h.1.symm, h.2.symm⟩⟩
    refine ⟨fun a first b second => ?_, apart.imp fun h same => h.1 (congrArg Prod.fst same)⟩
    by_cases same : a = b
    · rw [same]
      exact ⟨fun _ => rfl, fun _ => rfl⟩
    · have halves := apart.forall first second same
      exact ⟨fun e => (halves.1 e).elim, fun e => (halves.2 e).elim⟩
  · intro given
    rcases given with ⟨oneToOne, once⟩
    refine once.imp_of_mem fun {a b} first second other => ?_
    have agree := oneToOne a first b second
    exact ⟨fun e => other (Prod.ext e (agree.mp e)), fun e => other (Prod.ext (agree.mpr e) e)⟩

theorem oneToOne (apart : Apart pairs) : OneToOne pairs := (iff_oneToOne.mp apart).1

theorem nodup_labels (apart : Apart pairs) : (pairs.map Prod.fst).Nodup :=
  List.pairwise_map.mpr (apart.imp And.left)

theorem nodup_uris (apart : Apart pairs) : (pairs.map Prod.snd).Nodup :=
  List.pairwise_map.mpr (apart.imp And.right)

theorem append_singleton :
    Apart (pairs ++ [b]) ↔ Apart pairs ∧ NamespaceTable.isFree pairs b = true := by
  rw [Apart, List.pairwise_append, NamespaceTable.isFree_eq_true]
  simp only [List.pairwise_singleton, true_and, List.forall_mem_singleton, Apart]

/-- A default is added only if it shares no half with the pairs before it. -/
theorem append_fillGaps (apart : Apart pairs) :
    Apart (pairs ++ NamespaceTable.fillGaps pairs defaults) := by
  induction defaults generalizing pairs with
  | nil => rwa [NamespaceTable.fillGaps, List.append_nil]
  | cons b rest ih =>
    unfold NamespaceTable.fillGaps
    split
    case isTrue free =>
      have later := ih (append_singleton.mpr ⟨apart, free⟩)
      rwa [List.append_assoc] at later
    case isFalse => exact ih apart

end Apart

namespace NamespaceTable

variable {t : NamespaceTable} {label uri : String}

/-! ## Bijective tables -/

/-- Both directions hold the same pairs, in the same order, and no two of them share a half. -/
structure Bijective (t : NamespaceTable) : Prop where
  apart : Apart t.bindings
  labels : t.labels = t.bindings.map Prod.swap

namespace Bijective

theorem exists_pairs (h : t.Bijective) (unfrozen : t.frozen = false) :
    ∃ pairs, Apart pairs ∧ t = NamespaceTable.ofPairs pairs := by
  refine ⟨t.bindings, h.apart, ?_⟩
  rw [NamespaceTable.ofPairs, ← h.labels, ← unfrozen]
  rfl

theorem resolveLabel_iff (h : t.Bijective) :
    t.resolveLabel label = .ok uri ↔ (label, uri) ∈ t.bindings := by
  have found : t.uriOf? label = some uri ↔ (label, uri) ∈ t.bindings :=
    Dictionary.find?_eq_some h.apart.oneToOne
  rw [← found, resolveLabel]
  cases t.uriOf? label <;> simp

theorem resolveUri_iff (h : t.Bijective) :
    t.resolveUri uri = .ok label ↔ (label, uri) ∈ t.bindings := by
  have same : t.labelOf? uri = (NamespaceTable.ofPairs t.bindings).labelOf? uri := by
    rw [labelOf?, h.labels]
    rfl
  rw [← labelOf?_ofPairs h.apart.oneToOne, ← same, resolveUri]
  cases t.labelOf? uri <;> simp

end Bijective

/-! ## One command -/

/-- The table with further pairs at its end. -/
def extend (t : NamespaceTable) (more : List (String × String)) : NamespaceTable :=
  { t with uris := t.uris ++ more, labels := t.labels ++ more.map Prod.swap }

/-- What a command can do to a table. -/
inductive Change (t : NamespaceTable) (reply : Reply) : Prop
  | kept (same : reply.table = t)
  | froze (done : reply.answer = .ok .nothing) (table : reply.table = t.freeze)
  | extended (more : List (String × String)) (unfrozen : t.frozen = false)
      (done : reply.answer = .ok .nothing) (apart : Apart (t.bindings ++ more))
      (table : reply.table = t.extend more)

theorem extend_ofPairs (pairs more : List (String × String)) :
    (ofPairs pairs).extend more = ofPairs (pairs ++ more) := by
  rw [extend, ofPairs, ofPairs, List.map_append]

/-- A pair that is refused leaves the table as it is. -/
theorem bind_table_of_refused (refused : (t.bind label uri).answer ≠ .ok ()) :
    (t.bind label uri).table = t := by
  unfold bind at refused ⊢
  split
  · rfl
  · rename_i unfrozen
    rw [if_neg unfrozen] at refused
    split
    · rfl
    · rename_i fits
      simp only [fits] at refused
      split at refused <;> exact (refused rfl).elim

/-- Work on a table is answered with nothing when it is done. -/
theorem Effect.answer_reply_ok {e : Effect Unit} :
    e.reply.answer = .ok .nothing ↔ e.answer = .ok () := by
  rw [reply]
  cases e.answer <;> simp [Except.map, Except.mapError]

/-- A pair is bound when the table is not frozen and the pair agrees with each binding in both
halves or in none. -/
theorem bind_ok_iff (h : t.Bijective) :
    (t.run (.bind label uri)).answer = .ok .nothing ↔
      t.frozen = false ∧ OneToOne (t.bindings ++ [(label, uri)]) := by
  rw [run, Effect.answer_reply_ok]
  cases frozen : t.frozen with
  | true => simp [bind, frozen]
  | false =>
    obtain ⟨pairs, apart, rfl⟩ := h.exists_pairs frozen
    rw [bind_ofPairs_ok apart.oneToOne]
    exact (and_iff_right rfl).symm

theorem bind_change (h : t.Bijective) (label uri : String) :
    Change t (t.bind label uri).reply := by
  cases frozen : t.frozen with
  | true =>
    apply Change.kept
    rw [bind, if_pos frozen]
    rfl
  | false =>
    obtain ⟨pairs, apart, rfl⟩ := h.exists_pairs frozen
    by_cases fits : OneToOne (pairs ++ [(label, uri)])
    · have answer := (bind_ofPairs_ok apart.oneToOne).mpr fits
      have table := bind_ofPairs_table fits
      by_cases bound : (label, uri) ∈ pairs
      · rw [if_pos bound] at table
        exact .kept table
      · rw [if_neg bound, ← extend_ofPairs] at table
        have once : (pairs ++ [(label, uri)]).Nodup :=
          List.nodup_append_comm.mp (List.nodup_cons.mpr ⟨bound, (Apart.iff_oneToOne.mp apart).2⟩)
        exact .extended [(label, uri)] frozen (Effect.answer_reply_ok.mpr answer)
          (Apart.iff_oneToOne.mpr ⟨fits, once⟩) table
    · apply Change.kept
      exact bind_table_of_refused fun answer => fits ((bind_ofPairs_ok apart.oneToOne).mp answer)

/-- A frozen table keeps out all defaults, or the first one that is free. -/
theorem addDefaults_table_of_frozen (frozen : t.frozen = true) (defaults : Dictionary) :
    (t.addDefaults defaults).table = t := by
  induction defaults with
  | nil => rfl
  | cons b rest ih =>
    obtain ⟨label, uri⟩ := b
    rw [addDefaults]
    split
    · exact ih
    · rw [bind, if_pos frozen]

theorem addDefaults_change (h : t.Bijective) (defaults : Dictionary) :
    Change t (t.addDefaults defaults).reply := by
  cases frozen : t.frozen with
  | true => exact .kept (addDefaults_table_of_frozen frozen defaults)
  | false =>
    obtain ⟨pairs, apart, rfl⟩ := h.exists_pairs frozen
    obtain ⟨table, answer⟩ := @addDefaults_ofPairs pairs defaults apart.oneToOne
    rw [← extend_ofPairs] at table
    exact .extended (fillGaps pairs defaults) frozen (Effect.answer_reply_ok.mpr answer)
      apart.append_fillGaps table

/-- All that a command can do to a bijective table. -/
theorem run_change (h : t.Bijective) (c : Command) : Change t (t.run c) := by
  cases c with
  | bind label uri => exact bind_change h label uri
  | addDefaults defaults => exact addDefaults_change h defaults
  | freeze => exact .froze rfl rfl
  | _ => exact .kept rfl

namespace Change

variable {reply : Reply}

/-- A failure leaves the whole table as it is. -/
theorem table_of_error (change : Change t reply) {fault : ExpansionFault}
    (failed : reply.answer = .error fault) : reply.table = t := by
  cases change with
  | kept same => exact same
  | froze done => cases failed.symm.trans done
  | extended _ _ done => cases failed.symm.trans done

theorem bijective (change : Change t reply) (h : t.Bijective) : reply.table.Bijective := by
  cases change with
  | kept same => exact same ▸ h
  | froze _ table => exact table ▸ ⟨h.apart, h.labels⟩
  | extended more _ _ apart table =>
    refine table ▸ ⟨apart, ?_⟩
    rw [extend, h.labels]
    exact List.map_append.symm

/-- Bindings are added at the end only. -/
theorem keeps_bindings (change : Change t reply) : t.bindings <+: reply.table.bindings := by
  cases change with
  | kept same => exact same ▸ List.prefix_refl _
  | froze _ table => exact table ▸ List.prefix_refl _
  | extended more _ _ _ table => exact table ▸ List.prefix_append t.bindings more

end Change

/-- No command changes a frozen table. -/
theorem run_table_of_frozen (frozen : t.frozen = true) (c : Command) : (t.run c).table = t := by
  cases c with
  | bind label uri => exact bind_table_of_refused (by simp [bind, frozen])
  | addDefaults defaults => exact addDefaults_table_of_frozen frozen defaults
  | freeze =>
    rw [run, freeze, ← frozen]
  | _ => rfl

/-! ## Any number of commands -/

/-- What each command keeps is kept by all of them. -/
theorem runAll_induction {motive : NamespaceTable → Prop} (start : motive t)
    (step : ∀ t c, motive t → motive (t.run c).table) (commands : List Command) :
    motive (t.runAll commands) := by
  induction commands generalizing t with
  | nil => exact start
  | cons c rest ih => exact ih (step t c start)

theorem Bijective.runAll (h : t.Bijective) (commands : List Command) :
    (t.runAll commands).Bijective :=
  runAll_induction h (fun _ c bijective => (run_change bijective c).bijective bijective) commands

theorem runAll_keeps_bindings (h : t.Bijective) (commands : List Command) :
    t.bindings <+: (t.runAll commands).bindings := by
  induction commands generalizing t with
  | nil => exact List.prefix_refl _
  | cons c rest ih =>
    have change := run_change h c
    exact change.keeps_bindings.trans (ih (change.bijective h))

theorem runAll_of_frozen (frozen : t.frozen = true) (commands : List Command) :
    t.runAll commands = t := by
  refine runAll_induction (motive := (· = t)) rfl (fun s c same => ?_) commands
  rw [same, run_table_of_frozen frozen c]

end NamespaceTable

end PrivilegeCatalog
