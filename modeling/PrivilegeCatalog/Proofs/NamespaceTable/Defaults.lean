import Mathlib.Data.List.Induction
import PrivilegeCatalog.Proofs.NamespaceTable.Reachable

/-!
# Defaults fill gaps

Defaults are looked at one after another, each of them against a table that holds those before it
that were added, so that an early default can keep out a later one. `Fills` says which of them are
added without following that course, and determines them (`Fills.unique`). In every state that can
be reached `addDefaults_fills_gaps` tells what becomes of any defaults: a table that is not frozen
takes just these and fails with none, a second time nothing is left to add, and a frozen table
fails exactly when it has a gap for one of them.
-/

namespace PrivilegeCatalog.NamespaceTable

variable {t : NamespaceTable} {pairs before after defaults : List (String × String)}
  {b : String × String}

/-- Neither half of a pair is bound. -/
def LeavesFree (t : NamespaceTable) (b : String × String) : Prop :=
  t.uriOf? b.1 = none ∧ t.labelOf? b.2 = none

/-- What is added of some defaults. They stay in order, and a default is among them exactly when
the table leaves it free and no default before it that is added has its URI. -/
structure Fills (t : NamespaceTable) (defaults added : Dictionary) : Prop where
  order : added.Sublist defaults
  added_iff : ∀ before b after, defaults = before ++ b :: after →
    (b ∈ added ↔ t.LeavesFree b ∧ ∀ a ∈ before, a ∈ added → a.2 ≠ b.2)

/-! ## What is added -/

/-- Of pairs that occur once, those of a part that is in order are that part. -/
theorem filter_mem_of_sublist (part : before.Sublist pairs) (once : pairs.Nodup) :
    pairs.filter (· ∈ before) = before := by
  have whole := part.filter (· ∈ before)
  rw [List.filter_eq_self.mpr fun _ inside => decide_eq_true inside] at whole
  have same : before.Perm (pairs.filter (· ∈ before)) := by
    refine (List.perm_ext_iff_of_nodup (once.sublist part) (once.filter _)).mpr fun a => ?_
    rw [List.mem_filter, decide_eq_true_iff]
    exact (and_iff_right_of_imp fun inside => part.subset inside).symm
  exact (whole.eq_of_length same.length_eq).symm

/-- The defaults that are added are determined: whether one is follows from those before it. -/
theorem Fills.unique {added added' : Dictionary} (mapping : (defaults.map Prod.fst).Nodup)
    (first : t.Fills defaults added) (second : t.Fills defaults added') : added = added' := by
  have agree : ∀ before after, defaults = before ++ after →
      ∀ a ∈ before, a ∈ added ↔ a ∈ added' := by
    intro before
    induction before using List.reverseRecOn with
    | nil => exact fun _ _ _ inside => (List.not_mem_nil inside).elim
    | append_singleton rest b ih =>
      intro after split a inside
      rw [List.append_assoc] at split
      have earlier := ih _ split
      rcases List.mem_append.mp inside with inside | last
      · exact earlier a inside
      · rw [List.mem_singleton.mp last, first.added_iff rest b after split,
          second.added_iff rest b after split]
        refine and_congr_right fun _ => forall₂_congr fun a inside => ?_
        exact imp_congr_left (earlier a inside)
  have once : defaults.Nodup := mapping.of_map _
  rw [← filter_mem_of_sublist first.order once, ← filter_mem_of_sublist second.order once]
  refine List.filter_congr fun a inside => ?_
  exact decide_eq_decide.mpr (agree defaults [] (List.append_nil _).symm a inside)

/-! ## Free pairs -/

/-- The two look-ups of a default find out whether the table leaves it free. -/
theorem taken_eq_false : (t.hasLabel b.1 || t.hasUri b.2) = false ↔ t.LeavesFree b := by
  rw [Bool.or_eq_false_iff, hasLabel, hasUri, Dictionary.has_eq_isSome_find?,
    Dictionary.has_eq_isSome_find?, Option.isSome_eq_false_iff, Option.isSome_eq_false_iff,
    Option.isNone_iff_eq_none, Option.isNone_iff_eq_none]
  rfl

theorem leavesFree_ofPairs : (ofPairs pairs).LeavesFree b ↔ isFree pairs b = true := by
  rw [← taken_eq_false, taken_ofPairs, Bool.not_eq_false']

theorem isFree_append :
    isFree (pairs ++ before) b = true ↔ isFree pairs b = true ∧ isFree before b = true := by
  simp only [isFree_eq_true, List.forall_mem_append]

/-! ## Gaps -/

/-- The defaults at the end are looked at after those before them have been added. -/
theorem fillGaps_append :
    fillGaps pairs (before ++ after)
      = fillGaps pairs before ++ fillGaps (pairs ++ fillGaps pairs before) after := by
  induction before generalizing pairs with
  | nil => rw [List.nil_append, fillGaps, List.append_nil, List.nil_append]
  | cons a rest ih =>
    rw [List.cons_append, fillGaps, fillGaps]
    split
    case isTrue => rw [ih, List.cons_append, List.append_assoc, List.singleton_append]
    case isFalse => exact ih

theorem fillGaps_sublist : (fillGaps pairs defaults).Sublist defaults := by
  induction defaults generalizing pairs with
  | nil => exact .slnil
  | cons a rest ih =>
    rw [fillGaps]
    split
    case isTrue => exact ih.cons_cons a
    case isFalse => exact ih.cons a

/-- A default that comes once is added when it is free at its turn. -/
theorem mem_fillGaps_cons (once : b ∉ after) :
    b ∈ fillGaps pairs (b :: after) ↔ isFree pairs b = true := by
  rw [fillGaps]
  split
  case isTrue free => exact iff_of_true (List.mem_cons_self ..) free
  case isFalse taken =>
    exact iff_of_false (fun added => once (fillGaps_sublist.subset added)) taken

/-- The defaults that fill the gaps are those that are added. -/
theorem fills_fillGaps (mapping : (defaults.map Prod.fst).Nodup) :
    (ofPairs pairs).Fills defaults (fillGaps pairs defaults) := by
  refine ⟨fillGaps_sublist, fun before b after split => ?_⟩
  subst split
  rw [List.map_append, List.map_cons, List.nodup_append, List.nodup_cons] at mapping
  rcases mapping with ⟨-, ⟨later, -⟩, earlier⟩
  have apart : ∀ a ∈ before, ∀ c ∈ b :: after, a.1 ≠ c.1 := fun a first c second =>
    earlier _ (List.mem_map_of_mem first) _ (List.mem_map_of_mem (f := Prod.fst) second)
  -- Neither `b` nor what comes before it is among the defaults that are looked at afterwards.
  have notBefore : b ∉ fillGaps pairs before := fun added =>
    apart b (fillGaps_sublist.subset added) b (List.mem_cons_self ..) rfl
  have notAfter : ∀ a ∈ before, a ∉ fillGaps (pairs ++ fillGaps pairs before) (b :: after) :=
    fun a first added => apart a first a (fillGaps_sublist.subset added) rfl
  have once : b ∉ after := fun again => later (List.mem_map_of_mem again)
  rw [fillGaps_append, List.mem_append, or_iff_right notBefore, mem_fillGaps_cons once,
    isFree_append, leavesFree_ofPairs]
  refine and_congr_right fun _ => ?_
  rw [isFree_eq_true]
  constructor
  · intro free a first added
    exact (free a ((List.mem_append.mp added).resolve_right (notAfter a first))).2
  · intro free a added
    have first := fillGaps_sublist.subset added
    exact ⟨apart a first b (List.mem_cons_self ..), free a first (List.mem_append_left _ added)⟩

/-- After defaults have been added none of them is free any more. -/
theorem not_isFree_of_mem (inside : b ∈ defaults) :
    ¬ isFree (pairs ++ fillGaps pairs defaults) b = true := by
  obtain ⟨before, after, rfl⟩ := List.append_of_mem inside
  intro free
  rw [fillGaps_append, ← List.append_assoc, isFree_append] at free
  rcases free with ⟨turn, later⟩
  rw [fillGaps, if_pos turn, isFree_eq_true] at later
  exact (later b (List.mem_cons_self ..)).1 rfl

/-- Defaults of which none is free leave no gap to fill. -/
theorem fillGaps_eq_nil (taken : ∀ b ∈ defaults, ¬ isFree pairs b = true) :
    fillGaps pairs defaults = [] := by
  induction defaults with
  | nil => rfl
  | cons a rest ih =>
    rw [fillGaps, if_neg (taken a (List.mem_cons_self ..))]
    exact ih fun b inside => taken b (List.mem_cons_of_mem _ inside)

/-! ## Tables -/

theorem Effect.answer_reply_error {e : Effect Unit} {fault : TableFault}
    (failed : e.answer = .error fault) : e.reply.answer = .error (.table fault) := by
  rw [reply, failed]
  rfl

/-- A table that is not frozen takes the defaults that fill its gaps. -/
theorem exists_filled (h : t.Bijective) (unfrozen : t.frozen = false)
    (mapping : (defaults.map Prod.fst).Nodup) :
    (t.run (.addDefaults defaults)).answer = .ok .nothing ∧ ∃ added, t.Fills defaults added
      ∧ (t.run (.addDefaults defaults)).table = t.extend added := by
  obtain ⟨pairs, apart, rfl⟩ := h.exists_pairs unfrozen
  obtain ⟨table, answer⟩ := @addDefaults_ofPairs pairs defaults apart.oneToOne
  rw [← extend_ofPairs] at table
  exact ⟨Effect.answer_reply_ok.mpr answer, fillGaps pairs defaults, fills_fillGaps mapping,
    table⟩

/-- A second time defaults find the same answer and nothing left to add. -/
theorem addDefaults_again (h : t.Bijective) (defaults : Dictionary) :
    let first := t.run (.addDefaults defaults)
    let second := first.table.run (.addDefaults defaults)
    second.answer = first.answer ∧ second.table = first.table := by
  intro first second
  cases frozen : t.frozen with
  | true =>
    have same : first.table = t := run_table_of_frozen frozen _
    have again : second = first := congrArg (·.run (.addDefaults defaults)) same
    exact ⟨congrArg Reply.answer again, congrArg Reply.table again⟩
  | false =>
    obtain ⟨pairs, apart, rfl⟩ := h.exists_pairs frozen
    obtain ⟨table, answer⟩ := @addDefaults_ofPairs pairs defaults apart.oneToOne
    obtain ⟨table', answer'⟩ :=
      @addDefaults_ofPairs _ defaults (@oneToOne_fillGaps pairs defaults apart.oneToOne)
    rw [fillGaps_eq_nil fun b inside => not_isFree_of_mem inside, List.append_nil] at table'
    rw [← table] at table' answer'
    refine ⟨?_, table'⟩
    exact (Effect.answer_reply_ok.mpr answer').trans (Effect.answer_reply_ok.mpr answer).symm

/-- A frozen table lets defaults pass of which none is free, and refuses the first that is. -/
theorem addDefaults_of_frozen (frozen : t.frozen = true) (defaults : Dictionary) :
    ((∀ b ∈ defaults, ¬ t.LeavesFree b) ∧ (t.addDefaults defaults).answer = .ok ())
      ∨ ∃ b ∈ defaults, t.LeavesFree b
        ∧ (t.addDefaults defaults).answer = .error (.frozen b.1) := by
  induction defaults with
  | nil => exact .inl ⟨fun _ inside => (List.not_mem_nil inside).elim, rfl⟩
  | cons b rest ih =>
    obtain ⟨label, uri⟩ := b
    have looked := @taken_eq_false t (label, uri)
    rw [addDefaults]
    cases taken : t.hasLabel label || t.hasUri uri with
    | true =>
      have notFree : ¬ t.LeavesFree (label, uri) := fun free => by simp [looked.mpr free] at taken
      rcases ih with ⟨none, answer⟩ | ⟨b, inside, free, answer⟩
      · exact .inl ⟨List.forall_mem_cons.mpr ⟨notFree, none⟩, answer⟩
      · exact .inr ⟨b, List.mem_cons_of_mem _ inside, free, answer⟩
    | false =>
      refine .inr ⟨(label, uri), List.mem_cons_self .., looked.mp taken, ?_⟩
      rw [bind, if_pos frozen]
      rfl

/-! ## Every state -/

/-- In every state that can be reached defaults are added without a fault while the table is not
frozen. All bindings stay, and at their end the table takes, in order, each default whose label
and URI are both unbound and whose URI no default before it took. A second time the answer is the
same and the table stays as it is. A frozen table tells that it is frozen exactly when it leaves a
default free, and lets the others pass. -/
theorem addDefaults_fills_gaps (reachable : t.Reachable) (defaults : Dictionary)
    (mapping : (defaults.map Prod.fst).Nodup) :
    let first := t.run (.addDefaults defaults)
    let second := first.table.run (.addDefaults defaults)
    (t.frozen = false → first.answer = .ok .nothing ∧ (∃! added, t.Fills defaults added)
        ∧ ∀ added, t.Fills defaults added →
          first.table = t.extend added ∧ first.table.bindings = t.bindings ++ added)
      ∧ (second.answer = first.answer ∧ second.table = first.table)
      ∧ (t.frozen = true →
          ((∃ label, first.answer = .error (.table (.frozen label)))
            ↔ ∃ b ∈ defaults, t.LeavesFree b)
          ∧ ((∀ b ∈ defaults, ¬ t.LeavesFree b) → first.answer = .ok .nothing)) := by
  intro first second
  have h := reachable.bijective
  refine ⟨fun unfrozen => ?_, addDefaults_again h defaults, fun frozen => ?_⟩
  · obtain ⟨answer, added, fills, table⟩ := exists_filled h unfrozen mapping
    refine ⟨answer, ⟨added, fills, fun _ other => other.unique mapping fills⟩, fun _ other => ?_⟩
    rw [other.unique mapping fills]
    exact ⟨table, congrArg bindings table⟩
  · rcases addDefaults_of_frozen frozen defaults with ⟨none, answer⟩ | ⟨b, inside, free, answer⟩
    · have passed : first.answer = .ok .nothing := Effect.answer_reply_ok.mpr answer
      rw [passed]
      refine ⟨iff_of_false nofun fun given => ?_, fun _ => rfl⟩
      rcases given with ⟨b, inside, free⟩
      exact none b inside free
    · have refused : first.answer = .error (.table (.frozen b.1)) :=
        Effect.answer_reply_error answer
      rw [refused]
      exact ⟨iff_of_true ⟨b.1, rfl⟩ ⟨b, inside, free⟩, fun none => (none b inside free).elim⟩

/-- Of five defaults the second finds its URI bound, the fourth finds it taken by the third, and
the last finds its label bound; when the table is frozen, the third is refused. -/
theorem early_default_keeps_out_a_later_one :
    let t : NamespaceTable := ⟨[("p", ""), ("", "u")], [("", "p"), ("u", "")], false⟩
    let defaults := [("a", ""), ("q", "u"), ("r", "w"), ("s", "w"), ("", "v")]
    let first := t.run (.addDefaults defaults)
    (t.Reachable ∧ (defaults.map Prod.fst).Nodup ∧ first.answer = .ok .nothing
        ∧ first.table.bindings = [("p", ""), ("", "u"), ("r", "w")]
        ∧ t.Fills defaults [("r", "w")]
        ∧ (first.table.run (.addDefaults defaults)).table = first.table)
      ∧ t.freeze.Reachable
        ∧ ∃ label, (t.freeze.run (.addDefaults defaults)).answer
          = .error (.table (.frozen label)) := by
  intro t defaults first
  have made : (ofBindings [("p", ""), ("", "u")]).outcome = .ok t := by decide
  have reachable : t.Reachable := ⟨t, .ofBindings _ made, [], rfl⟩
  have frozen : t.freeze.Reachable := ⟨t, .ofBindings _ made, [.freeze], rfl⟩
  have mapping : (defaults.map Prod.fst).Nodup := by decide
  obtain ⟨filled, again, -⟩ := addDefaults_fills_gaps reachable defaults mapping
  obtain ⟨answer, ⟨added, fills, -⟩, extended⟩ := filled rfl
  have bindings : first.table.bindings = t.bindings ++ [("r", "w")] := by decide
  have same : added = [("r", "w")] :=
    List.append_cancel_left ((extended added fills).2.symm.trans bindings)
  obtain ⟨-, -, refused⟩ := addDefaults_fills_gaps frozen defaults mapping
  have gap : ∃ b ∈ defaults, t.freeze.LeavesFree b :=
    ⟨("r", "w"), by decide, by decide, by decide⟩
  exact ⟨⟨reachable, mapping, answer, bindings, same ▸ fills, again.2⟩, frozen,
    (refused rfl).1.mpr gap⟩

end PrivilegeCatalog.NamespaceTable
