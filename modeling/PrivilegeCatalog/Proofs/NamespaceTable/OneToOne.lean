import Mathlib.Data.List.Nodup
import PrivilegeCatalog.NamespaceTable

/-!
# Tables as one-to-one pairs

An unfrozen table is made up of pairs of which no two agree in one half alone. `bind_ofPairs_ok`
tells when such a table takes a further pair and what it then holds, and `addDefaults_ofPairs`
which defaults it takes: those that agree in neither half with a pair that is there already.
-/

namespace PrivilegeCatalog

/-- Pairs of which no two agree in exactly one half. -/
def OneToOne (pairs : List (String × String)) : Prop :=
  ∀ a ∈ pairs, ∀ b ∈ pairs, a.1 = b.1 ↔ a.2 = b.2

namespace OneToOne

variable {pairs more : List (String × String)}

theorem nil : OneToOne [] := fun _ inside => (List.not_mem_nil inside).elim

/-- Only which pairs there are counts, not their order or number. -/
theorem of_subset (h : OneToOne pairs) (sub : more ⊆ pairs) : OneToOne more :=
  fun a ha b hb => h a (sub ha) b (sub hb)

theorem congr (same : ∀ b, b ∈ more ↔ b ∈ pairs) : OneToOne more ↔ OneToOne pairs :=
  ⟨fun h => h.of_subset fun b hb => (same b).mpr hb,
    fun h => h.of_subset fun b hb => (same b).mp hb⟩

theorem swap (h : OneToOne pairs) : OneToOne (pairs.map Prod.swap) := by
  intro a ha b hb
  obtain ⟨a, inside, rfl⟩ := List.mem_map.mp ha
  obtain ⟨b, inside', rfl⟩ := List.mem_map.mp hb
  exact ⟨(h a inside b inside').mpr, (h a inside b inside').mp⟩

/-- Of one-to-one pairs no two have the same first half. -/
theorem nodup_keys (h : OneToOne pairs) (once : pairs.Nodup) : (pairs.map Prod.fst).Nodup := by
  refine once.map_on fun a first b second same => ?_
  exact Prod.ext same ((h a first b second).mp same)

/-- One pair more is one-to-one with the others when it agrees with each in both halves or in
none.
-/
theorem append_singleton {binding : String × String} (h : OneToOne pairs) :
    OneToOne (pairs ++ [binding]) ↔ ∀ a ∈ pairs, a.1 = binding.1 ↔ a.2 = binding.2 := by
  constructor
  · intro all a ha
    exact all a (by simp [ha]) binding (by simp)
  · intro agree a ha b hb
    rcases List.mem_append.mp ha with ha | ha <;> rcases List.mem_append.mp hb with hb | hb
    · exact h a ha b hb
    · rw [List.mem_singleton.mp hb]
      exact agree a ha
    · rw [List.mem_singleton.mp ha]
      exact ⟨fun e => ((agree b hb).mp e.symm).symm, fun e => ((agree b hb).mpr e.symm).symm⟩
    · rw [List.mem_singleton.mp ha, List.mem_singleton.mp hb]
      exact ⟨fun _ => rfl, fun _ => rfl⟩

end OneToOne

namespace Dictionary

/-- Under a key of one-to-one pairs there is the other half of its pair. -/
theorem find?_eq_some {d : Dictionary} (h : OneToOne d) {key value : String} :
    d.find? key = some value ↔ (key, value) ∈ d := by
  rw [find?, Option.map_eq_some_iff]
  constructor
  · intro known
    rcases known with ⟨entry, found, rfl⟩
    have same : entry.1 = key := by simpa using List.find?_some found
    rw [← same]
    exact List.mem_of_find?_eq_some found
  · intro inside
    have some_ : (List.find? (fun e => e.1 == key) d).isSome := by
      rw [List.find?_isSome]
      exact ⟨_, inside, by simp⟩
    obtain ⟨entry, found⟩ := Option.isSome_iff_exists.mp some_
    have same : entry.1 = key := by simpa using List.find?_some found
    exact ⟨entry, found, (h _ (List.mem_of_find?_eq_some found) _ inside).mp same⟩

theorem has_eq_true {d : Dictionary} {key : String} :
    d.has key = true ↔ ∃ value, (key, value) ∈ d := by
  simp only [has, List.any_eq_true, beq_iff_eq, Prod.exists]
  constructor
  · intro known
    rcases known with ⟨key, value, inside, rfl⟩
    exact ⟨value, inside⟩
  · intro known
    rcases known with ⟨value, inside⟩
    exact ⟨key, value, inside, rfl⟩

end Dictionary

namespace NamespaceTable

/-- The unfrozen table of some pairs, looked up in both directions. -/
def ofPairs (pairs : List (String × String)) : NamespaceTable :=
  ⟨pairs, pairs.map Prod.swap, false⟩

section Lookup

variable {pairs : List (String × String)} {label uri : String}

theorem uriOf?_ofPairs (h : OneToOne pairs) :
    (ofPairs pairs).uriOf? label = some uri ↔ (label, uri) ∈ pairs :=
  Dictionary.find?_eq_some h

theorem labelOf?_ofPairs (h : OneToOne pairs) :
    (ofPairs pairs).labelOf? uri = some label ↔ (label, uri) ∈ pairs := by
  rw [labelOf?, ofPairs, Dictionary.find?_eq_some h.swap]
  simp only [List.mem_map, Prod.exists, Prod.swap_prod_mk, Prod.mk.injEq]
  constructor
  · intro swapped
    rcases swapped with ⟨l, u, inside, rfl, rfl⟩
    exact inside
  · intro inside
    exact ⟨label, uri, inside, rfl, rfl⟩

theorem hasLabel_ofPairs :
    (ofPairs pairs).hasLabel label = true ↔ ∃ uri, (label, uri) ∈ pairs :=
  Dictionary.has_eq_true

theorem hasUri_ofPairs : (ofPairs pairs).hasUri uri = true ↔ ∃ label, (label, uri) ∈ pairs := by
  rw [hasUri, ofPairs, Dictionary.has_eq_true]
  simp only [List.mem_map, Prod.exists, Prod.swap_prod_mk, Prod.mk.injEq]
  constructor
  · intro swapped
    rcases swapped with ⟨l, l', u, inside, rfl, rfl⟩
    exact ⟨_, inside⟩
  · intro bound
    rcases bound with ⟨l, inside⟩
    exact ⟨l, l, uri, inside, rfl, rfl⟩

theorem uriOf?_ofPairs_eq_none (h : OneToOne pairs) :
    (ofPairs pairs).uriOf? label = none ↔ ∀ b ∈ pairs, b.1 ≠ label := by
  constructor
  · intro none_ b inside same
    have found : (ofPairs pairs).uriOf? label = some b.2 :=
      (uriOf?_ofPairs h).mpr (by rw [← same]; exact inside)
    rw [none_] at found
    cases found
  · intro free
    cases found : (ofPairs pairs).uriOf? label with
    | none => rfl
    | some uri => exact (free _ ((uriOf?_ofPairs h).mp found) rfl).elim

end Lookup

/-! ## Binding -/

section Bind

variable {pairs : List (String × String)} {label uri : String}

/-- Nothing stands against a pair exactly when it is one-to-one with all that are bound. -/
theorem conflictWith?_ofPairs (h : OneToOne pairs) :
    (ofPairs pairs).conflictWith? label uri = none ↔ OneToOne (pairs ++ [(label, uri)]) := by
  rw [h.append_singleton]
  have ofUri : conflictWith?.conflictOfUri (ofPairs pairs) label uri = none
      ↔ ∀ b ∈ pairs, b.2 = uri → b.1 = label := by
    rw [conflictWith?.conflictOfUri]
    constructor
    · intro none_ b inside same
      have found : (ofPairs pairs).labelOf? uri = some b.1 :=
        (labelOf?_ofPairs h).mpr (by rw [← same]; exact inside)
      rw [found] at none_
      by_cases other : b.1 = label
      · exact other
      · simp [other] at none_
    · intro agree
      cases found : (ofPairs pairs).labelOf? uri with
      | none => rfl
      | some other =>
        have same : other = label := agree _ ((labelOf?_ofPairs h).mp found) rfl
        simp [same]
  unfold conflictWith?
  cases found : (ofPairs pairs).uriOf? label with
  | none =>
    have free := (uriOf?_ofPairs_eq_none h).mp found
    rw [ofUri]
    constructor
    · exact fun agree b inside => ⟨fun same => (free b inside same).elim, agree b inside⟩
    · exact fun agree b inside => (agree b inside).mpr
  | some other =>
    have bound := (uriOf?_ofPairs h).mp found
    by_cases same : other = uri
    · subst same
      simp only [ne_eq, not_true_eq_false, if_false, ofUri]
      constructor
      · intro agree b inside
        exact ⟨fun e => (h b inside _ bound).mp e, agree b inside⟩
      · exact fun agree b inside => (agree b inside).mpr
    · simp only [ne_eq, same, not_false_eq_true, if_true, reduceCtorEq, false_iff]
      exact fun agree => same ((agree _ bound).mp rfl)

/-- A table takes a pair exactly when it is one-to-one with those that are bound. -/
theorem bind_ofPairs_ok (h : OneToOne pairs) :
    ((ofPairs pairs).bind label uri).answer = .ok () ↔ OneToOne (pairs ++ [(label, uri)]) := by
  rw [← conflictWith?_ofPairs h, bind,
    if_neg (show ¬(ofPairs pairs).frozen = true from Bool.false_ne_true)]
  cases (ofPairs pairs).conflictWith? label uri with
  | some existing => simp
  | none => by_cases bound : (ofPairs pairs).hasLabel label = true <;> simp [bound]

/-- A pair that is taken stands at the end, unless it was there already. -/
theorem bind_ofPairs_table (h : OneToOne (pairs ++ [(label, uri)])) :
    ((ofPairs pairs).bind label uri).table
      = ofPairs (if (label, uri) ∈ pairs then pairs else pairs ++ [(label, uri)]) := by
  have oneToOne : OneToOne pairs := h.of_subset (List.subset_append_left _ _)
  have agree := oneToOne.append_singleton.mp h
  have noConflict := (conflictWith?_ofPairs oneToOne).mpr h
  simp only [bind, show (ofPairs pairs).frozen = false from rfl, Bool.false_eq_true, if_false,
    noConflict]
  by_cases bound : (label, uri) ∈ pairs
  · rw [if_pos (hasLabel_ofPairs.mpr ⟨uri, bound⟩), if_pos bound]
  · have labelFree : (ofPairs pairs).hasLabel label = false := by
      rw [← Bool.not_eq_true, hasLabel_ofPairs]
      intro taken
      rcases taken with ⟨other, inside⟩
      have same : other = uri := (agree _ inside).mp rfl
      exact bound (same ▸ inside)
    have uriFree : (ofPairs pairs).hasUri uri = false := by
      rw [← Bool.not_eq_true, hasUri_ofPairs]
      intro taken
      rcases taken with ⟨other, inside⟩
      have same : other = label := (agree _ inside).mpr rfl
      exact bound (same ▸ inside)
    rw [if_neg (by simp [labelFree]), if_neg bound]
    simp only [Dictionary.put_of_not_has labelFree, Dictionary.put_of_not_has uriFree]
    simp only [ofPairs, List.map_append, List.map_cons, List.map_nil, Prod.swap_prod_mk]

end Bind

/-! ## Defaults -/

/-- Neither half of a pair occurs in the given ones. -/
def isFree (pairs : List (String × String)) (b : String × String) : Bool :=
  !pairs.any fun a => a.1 == b.1 || a.2 == b.2

/-- The defaults that are added to the given pairs, each of them before the next one is looked at.
-/
def fillGaps (pairs : List (String × String)) : List (String × String) → List (String × String)
  | [] => []
  | b :: rest => if isFree pairs b then b :: fillGaps (pairs ++ [b]) rest else fillGaps pairs rest

section Defaults

variable {pairs defaults : List (String × String)} {b : String × String}

theorem isFree_eq_true : isFree pairs b = true ↔ ∀ a ∈ pairs, a.1 ≠ b.1 ∧ a.2 ≠ b.2 := by
  simp [isFree]

/-- The two look-ups of a default find out whether it is free. -/
theorem taken_ofPairs :
    ((ofPairs pairs).hasLabel b.1 || (ofPairs pairs).hasUri b.2) = !isFree pairs b := by
  rw [isFree, Bool.not_not, Bool.eq_iff_iff, Bool.or_eq_true, hasLabel_ofPairs, hasUri_ofPairs,
    List.any_eq_true]
  constructor
  · intro taken
    rcases taken with ⟨uri, inside⟩ | ⟨label, inside⟩
    · exact ⟨_, inside, by simp⟩
    · exact ⟨_, inside, by simp⟩
  · intro taken
    rcases taken with ⟨a, inside, same⟩
    rcases Bool.or_eq_true_iff.mp same with same | same
    · exact .inl ⟨a.2, by rw [← eq_of_beq same]; exact inside⟩
    · exact .inr ⟨a.1, by rw [← eq_of_beq same]; exact inside⟩

/-- A free pair can be added. -/
theorem oneToOne_append_of_isFree (h : OneToOne pairs) (free : isFree pairs b = true) :
    OneToOne (pairs ++ [b]) := by
  rw [h.append_singleton]
  intro a inside
  have apart := isFree_eq_true.mp free a inside
  exact ⟨fun e => (apart.1 e).elim, fun e => (apart.2 e).elim⟩

theorem oneToOne_fillGaps (h : OneToOne pairs) : OneToOne (pairs ++ fillGaps pairs defaults) := by
  induction defaults generalizing pairs with
  | nil => rwa [fillGaps, List.append_nil]
  | cons b rest ih =>
    unfold fillGaps
    split
    · rename_i free
      have later := ih (oneToOne_append_of_isFree h free)
      rwa [List.append_assoc] at later
    · exact ih h

/-- Defaults are always taken up without a conflict, those that fill a gap and no others. -/
theorem addDefaults_ofPairs (h : OneToOne pairs) :
    ((ofPairs pairs).addDefaults defaults).table = ofPairs (pairs ++ fillGaps pairs defaults)
      ∧ ((ofPairs pairs).addDefaults defaults).answer = .ok () := by
  induction defaults generalizing pairs with
  | nil => simp [addDefaults, fillGaps]
  | cons b rest ih =>
    obtain ⟨label, uri⟩ := b
    rw [addDefaults, fillGaps, taken_ofPairs (b := (label, uri))]
    by_cases free : isFree pairs (label, uri) = true
    · have oneToOne := oneToOne_append_of_isFree h free
      have absent : (label, uri) ∉ pairs := fun inside => (isFree_eq_true.mp free _ inside).1 rfl
      have answer := (bind_ofPairs_ok h).mpr oneToOne
      have table := bind_ofPairs_table oneToOne
      rw [if_neg absent] at table
      have later := ih oneToOne
      simp only [free, Bool.not_true, Bool.false_eq_true, if_false, if_true, answer, table,
        later.1, later.2, List.append_assoc, List.singleton_append, and_self]
    · simp only [free, Bool.not_false, if_true, if_false, Bool.false_eq_true]
      exact ih h

/-- Defaults that are one-to-one among themselves do not stand in each other's way. -/
theorem fillGaps_eq_filter (h : OneToOne defaults) (once : defaults.Nodup) :
    fillGaps pairs defaults = defaults.filter (isFree pairs) := by
  induction defaults generalizing pairs with
  | nil => rfl
  | cons b rest ih =>
    have tail : fillGaps pairs rest = rest.filter (isFree pairs) :=
      ih (h.of_subset (List.subset_cons_self _ _)) once.of_cons
    rw [fillGaps, List.filter_cons]
    split
    · rename_i free
      rw [ih (h.of_subset (List.subset_cons_self _ _)) once.of_cons]
      congr 1
      apply List.filter_congr
      intro a inside
      have other : b ≠ a := fun e => (List.nodup_cons.mp once).1 (e ▸ inside)
      have agree := h b (by simp) a (by simp [inside])
      have apart : b.1 ≠ a.1 ∧ b.2 ≠ a.2 :=
        ⟨fun e => other (Prod.ext e (agree.mp e)), fun e => other (Prod.ext (agree.mpr e) e)⟩
      rw [Bool.eq_iff_iff, isFree_eq_true, isFree_eq_true]
      constructor
      · exact fun free c inside => free c (by simp [inside])
      · intro free c inside
        rcases List.mem_append.mp inside with inside | inside
        · exact free c inside
        · rw [List.mem_singleton.mp inside]
          exact apart
    · exact tail

end Defaults

theorem oneToOne_wellKnown : OneToOne wellKnown := by
  unfold OneToOne
  decide

theorem nodup_wellKnown : wellKnown.Nodup := by decide

end NamespaceTable

end PrivilegeCatalog
