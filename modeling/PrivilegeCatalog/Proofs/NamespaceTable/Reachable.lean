import PrivilegeCatalog.Proofs.Logged
import PrivilegeCatalog.Proofs.NamespaceTable.Changes

/-!
# Tables that can be reached

A caller makes a table and gives it commands, of which some may fail. In every state that can be
reached so, labels and URIs are tied one to one (`reachable_is_bijection`), and its history is a
list that only grows (`commands_append`): a command that fails leaves everything as it was, one
that succeeds adds at the end, and after a freeze nothing changes any more.
-/

namespace PrivilegeCatalog.NamespaceTable

variable {t : NamespaceTable}

/-- A table as it can be made. -/
inductive Made : NamespaceTable → Prop
  | empty : Made empty
  | withDefaults {t : NamespaceTable} (done : withDefaults.outcome = .ok t) : Made t
  | ofBindings {t : NamespaceTable} (pairs : Dictionary)
      (done : (ofBindings pairs).outcome = .ok t) : Made t
  | frozenOfBindings {t : NamespaceTable} (pairs : Dictionary)
      (done : (frozenOfBindings pairs).outcome = .ok t) : Made t

/-- A table as a caller can hold it: made, and then given commands, failed ones included. -/
def Reachable (t : NamespaceTable) : Prop :=
  ∃ made : NamespaceTable, made.Made ∧ ∃ commands, made.runAll commands = t

/-! ## Tables as they are made -/

theorem logged_ok {e : Effect Unit} :
    e.logged.outcome = .ok t ↔ e.answer = .ok () ∧ e.table = t := by
  rw [Effect.logged]
  cases e.answer <;> simp [Except.map]

theorem bijective_empty : empty.Bijective := ⟨.nil, rfl⟩

theorem Bijective.freeze (h : t.Bijective) : t.freeze.Bijective :=
  (run_change h .freeze).bijective h

/-- Each pair is bound by a command of its own, up to one that is refused. -/
theorem Bijective.bindAll (h : t.Bijective) (pairs : List (String × String)) :
    (t.bindAll pairs).table.Bijective := by
  induction pairs generalizing t with
  | nil => exact h
  | cons b rest ih =>
    obtain ⟨label, uri⟩ := b
    have bound : (t.bind label uri).table.Bijective := (bind_change h label uri).bijective h
    unfold NamespaceTable.bindAll
    dsimp only
    split
    · exact bound
    · exact ih bound

theorem bijective_ofBindings {pairs : Dictionary} (done : (ofBindings pairs).outcome = .ok t) :
    t.Bijective := by
  rw [ofBindings, logged_ok] at done
  rw [← done.2]
  exact bijective_empty.bindAll pairs

theorem Made.bijective (made : t.Made) : t.Bijective := by
  cases made with
  | empty => exact bijective_empty
  | withDefaults done => exact bijective_ofBindings done
  | ofBindings pairs done => exact bijective_ofBindings done
  | frozenOfBindings pairs done =>
    rw [NamespaceTable.frozenOfBindings, Logged.outcome_bind_eq_ok] at done
    obtain ⟨unfrozen, done, frozen⟩ := done
    cases frozen
    exact (bijective_ofBindings done).freeze

theorem Reachable.bijective (reachable : t.Reachable) : t.Bijective := by
  obtain ⟨made, fresh, commands, rfl⟩ := reachable
  exact fresh.bijective.runAll commands

/-! ## Every state -/

/-- In every state that can be reached a label resolves to a URI exactly when the URI resolves to
the label, and both directions hold each label and each URI once. -/
theorem reachable_is_bijection (reachable : t.Reachable) :
    (∀ label uri, t.resolveLabel label = .ok uri ↔ t.resolveUri uri = .ok label)
      ∧ (t.uris.map Prod.fst).Nodup ∧ (t.uris.map Prod.snd).Nodup
      ∧ (t.labels.map Prod.fst).Nodup ∧ (t.labels.map Prod.snd).Nodup
      ∧ t.uris.length = t.labels.length := by
  have h := reachable.bijective
  have labels : t.labels = t.uris.map Prod.swap := h.labels
  refine ⟨fun label uri => ?_, h.apart.nodup_labels, h.apart.nodup_uris, ?_, ?_, ?_⟩
  · rw [h.resolveLabel_iff, h.resolveUri_iff]
  · rw [labels, List.map_map]
    exact h.apart.nodup_uris
  · rw [labels, List.map_map]
    exact h.apart.nodup_labels
  · rw [labels, List.length_map]

/-- The empty text stands for a URI and, after a pair that is refused and defaults of which one is
passed over, still resolves to its label. -/
theorem empty_text_is_resolved :
    let t : NamespaceTable :=
      { uris := [("", "x"), ("p", ""), ("a", "u")], labels := [("x", ""), ("", "p"), ("u", "a")],
        frozen := true }
    t.Reachable ∧ t.resolveUri "" = .ok "p" := by
  intro t
  have made : (ofBindings [("", "x"), ("p", "")]).outcome
      = .ok { uris := [("", "x"), ("p", "")], labels := [("x", ""), ("", "p")] } := by decide
  have commanded : runAll { uris := [("", "x"), ("p", "")], labels := [("x", ""), ("", "p")] }
      [.bind "q" "", .addDefaults [("a", "u"), ("b", "u")], .freeze, .bind "z" "w"] = t := by
    decide
  have reachable : t.Reachable := ⟨_, .ofBindings _ made, _, commanded⟩
  exact ⟨reachable, ((reachable_is_bijection reachable).1 "p" "").mp (by decide)⟩

/-! ## Every history -/

/-- A pair that was bound with success is among the bindings. -/
theorem mem_bindings_of_bind (h : t.Bijective) {label uri : String}
    (done : (t.run (.bind label uri)).answer = .ok .nothing) :
    (label, uri) ∈ (t.run (.bind label uri)).table.bindings := by
  obtain ⟨unfrozen, fits⟩ := (bind_ok_iff h).mp done
  obtain ⟨pairs, apart, rfl⟩ := h.exists_pairs unfrozen
  have table : ((ofPairs pairs).run (.bind label uri)).table = _ := bind_ofPairs_table fits
  rw [table]
  by_cases bound : (label, uri) ∈ pairs
  · rw [if_pos bound]
    exact bound
  · rw [if_neg bound]
    exact List.mem_append_right _ (List.mem_singleton.mpr rfl)

/-- What a table resolves it resolves after any commands. -/
theorem resolves_after (h : t.Bijective) (commands : List Command) {label uri : String}
    (bound : (label, uri) ∈ t.bindings) :
    (t.runAll commands).resolveLabel label = .ok uri
      ∧ (t.runAll commands).resolveUri uri = .ok label := by
  have later := h.runAll commands
  have kept : (label, uri) ∈ (t.runAll commands).bindings :=
    (runAll_keeps_bindings h commands).subset bound
  exact ⟨later.resolveLabel_iff.mpr kept, later.resolveUri_iff.mpr kept⟩

/-- A command that fails leaves the whole table as it is, one that succeeds adds bindings at the
end only; so a label or a URI that is resolved once keeps its meaning and its place through all
later commands, and so does a pair that is bound with success. No command changes a frozen
table. -/
theorem commands_append (reachable : t.Reachable) :
    (∀ c fault, (t.run c).answer = .error fault → (t.run c).table = t)
      ∧ (∀ c, t.bindings <+: (t.run c).table.bindings)
      ∧ (∀ commands, t.bindings <+: (t.runAll commands).bindings)
      ∧ (∀ commands label uri, t.resolveLabel label = .ok uri →
          (t.runAll commands).resolveLabel label = .ok uri)
      ∧ (∀ commands label uri, t.resolveUri uri = .ok label →
          (t.runAll commands).resolveUri uri = .ok label)
      ∧ (∀ commands (place : Nat) binding, t.bindings[place]? = some binding →
          (t.runAll commands).bindings[place]? = some binding)
      ∧ (∀ label uri, (t.run (.bind label uri)).answer = .ok .nothing → ∀ commands,
          ((t.run (.bind label uri)).table.runAll commands).resolveLabel label = .ok uri)
      ∧ (t.frozen = true → ∀ commands, t.runAll commands = t) := by
  have h := reachable.bijective
  refine ⟨?_, ?_, ?_, ?_, ?_, ?_, ?_, ?_⟩
  · exact fun c fault failed => (run_change h c).table_of_error failed
  · exact fun c => (run_change h c).keeps_bindings
  · exact fun commands => runAll_keeps_bindings h commands
  · exact fun commands label uri found =>
      (resolves_after h commands (h.resolveLabel_iff.mp found)).1
  · exact fun commands label uri found =>
      (resolves_after h commands (h.resolveUri_iff.mp found)).2
  · intro commands place binding found
    obtain ⟨more, longer⟩ := runAll_keeps_bindings h commands
    rw [← longer, List.getElem?_append_left (List.getElem?_eq_some_iff.mp found).1]
    exact found
  · intro label uri done commands
    have changed := (run_change h (.bind label uri)).bijective h
    exact (resolves_after changed commands (mem_bindings_of_bind h done)).1
  · exact fun frozen commands => runAll_of_frozen frozen commands

/-- Defaults of which the first is taken already and the second refused leave a frozen table as it
is, and a label that is bound to the empty text keeps it. -/
theorem refused_defaults_change_nothing :
    let t : NamespaceTable :=
      { uris := [("p", ""), ("jcr", "y")], labels := [("", "p"), ("y", "jcr")], frozen := true }
    let defaults : Command := .addDefaults [("jcr", "z"), ("q", "w"), ("r", "v")]
    t.Reachable ∧ (t.run defaults).answer = .error (.table (.frozen "q"))
      ∧ (t.run defaults).table = t
      ∧ (t.runAll [defaults, .bind "s" "t", .freeze]).resolveLabel "p" = .ok "" := by
  intro t defaults
  have made : (frozenOfBindings [("p", ""), ("jcr", "y")]).outcome = .ok t := by decide
  have reachable : t.Reachable := ⟨t, .frozenOfBindings _ made, [], rfl⟩
  have failed : (t.run defaults).answer = .error (.table (.frozen "q")) := by decide
  have append := commands_append reachable
  exact ⟨reachable, failed, append.1 _ _ failed, append.2.2.2.1 _ _ _ (by decide)⟩

end PrivilegeCatalog.NamespaceTable
