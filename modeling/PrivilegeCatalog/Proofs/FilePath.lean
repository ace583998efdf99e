import Mathlib.Data.List.Infix
import Mathlib.Data.Nat.Find
import PrivilegeCatalog.FileTree

/-!
# Where steps lead

The steps of a path lead from folder to folder, down by a name and up by double dots (`reached`).
They keep to the line between where they start and where they lead (`StaysInLine`) when every
folder that they come to is on it; then they come to every folder on it (`exists_arrival`). Steps
without double dots keep to the line, and whether others do depends only on whether they start at
the top (`StaysInLine.of_ne_nil`).
-/

namespace PrivilegeCatalog

namespace FilePath

/-- Where a step leads from a position. -/
def stepFrom (position : Position) (step : String) : Position :=
  if isIdle step then position else if step = above then position.dropLast else position ++ [step]

/-- Where steps lead from a position when there are folders all the way. -/
def reached (start : Position) (steps : List String) : Position := steps.foldl stepFrom start

variable {start other p q : Position} {step : String} {steps : List String}

theorem reached_append (start : Position) (first second : List String) :
    reached start (first ++ second) = reached (reached start first) second := List.foldl_append

theorem reached_take_succ (start : Position) {k : Nat} (inside : k < steps.length) :
    reached start (steps.take (k + 1)) = stepFrom (reached start (steps.take k)) steps[k] := by
  rw [List.take_add_one, List.getElem?_eq_getElem inside, reached_append]
  rfl

/-- A step adds one name at most. -/
theorem length_stepFrom_le (p : Position) (step : String) :
    (stepFrom p step).length ≤ p.length + 1 := by
  unfold stepFrom
  split
  · exact Nat.le_succ _
  · split
    · rw [List.length_dropLast]
      omega
    · rw [List.length_append, List.length_singleton]

/-- A step leads up from a folder or to where the folder is part of the way. -/
theorem stepFrom_cases (p : Position) (step : String) :
    p <+: stepFrom p step ∨ stepFrom p step = p.dropLast := by
  unfold stepFrom
  split
  · exact .inl (List.prefix_refl p)
  · split
    · exact .inr rfl
    · exact .inl (List.prefix_append p [step])

/-- A step out of where the way started leads up from there. -/
theorem stepFrom_out (under : start <+: p) (out : ¬ start <+: stepFrom p step) :
    p = start ∧ stepFrom p step = start.dropLast := by
  have up : stepFrom p step = p.dropLast := by
    rcases stepFrom_cases p step with further | up
    · exact absurd (under.trans further) out
    · exact up
  obtain ⟨rest, rfl⟩ := under
  cases rest with
  | nil => exact ⟨List.append_nil start, by rw [up, List.append_nil]⟩
  | cons name rest =>
    rw [up, List.dropLast_append_of_ne_nil (List.cons_ne_nil name rest)] at out
    exact absurd (List.prefix_append _ _) out

theorem prefix_reached (noAbove : above ∉ steps) : start <+: reached start steps := by
  induction steps generalizing start with
  | nil => exact List.prefix_refl start
  | cons step rest ih =>
    obtain ⟨other, others⟩ := not_or.mp (mt List.mem_cons.mpr noAbove)
    refine List.IsPrefix.trans ?_ (ih others)
    unfold stepFrom
    split
    · exact List.prefix_refl start
    · rw [if_neg (Ne.symm other)]
      exact List.prefix_append start [step]

/-- The steps keep to the line of folders between where they start and where they lead. -/
def StaysInLine (start : Position) (steps : List String) : Prop :=
  ∀ k ≤ steps.length,
    start <+: reached start (steps.take k) ∧ reached start (steps.take k) <+: reached start steps

instance (start : Position) (steps : List String) : Decidable (StaysInLine start steps) :=
  inferInstanceAs (Decidable (∀ k ≤ steps.length, _ ∧ _))

/-- Steps that do not keep to the line leave it somewhere first. -/
theorem exists_first_out (leaves : ¬ StaysInLine start steps) :
    ∃ k ≤ steps.length,
      ¬ (start <+: reached start (steps.take k)
        ∧ reached start (steps.take k) <+: reached start steps)
        ∧ ∀ j < k, start <+: reached start (steps.take j)
          ∧ reached start (steps.take j) <+: reached start steps := by
  classical
  have leaves' : ∃ k, k ≤ steps.length ∧ ¬ (start <+: reached start (steps.take k)
      ∧ reached start (steps.take k) <+: reached start steps) := by
    by_contra never
    exact leaves fun k within => by_contra fun out => never ⟨k, within, out⟩
  obtain ⟨within, out⟩ := Nat.find_spec leaves'
  refine ⟨Nat.find leaves', within, out, fun j earlier => ?_⟩
  by_contra already
  exact Nat.find_min leaves' earlier ⟨earlier.le.trans within, already⟩

/-- Steps that never lead up keep to the line. -/
theorem staysInLine_of_not_mem (noAbove : above ∉ steps) (start : Position) :
    StaysInLine start steps := by
  intro k _
  have whole : reached start steps
      = reached (reached start (steps.take k)) (steps.drop k) := by
    rw [← reached_append, List.take_append_drop]
  refine ⟨prefix_reached fun inside => noAbove (List.mem_of_mem_take inside), ?_⟩
  rw [whole]
  exact prefix_reached fun inside => noAbove (List.mem_of_mem_drop inside)

theorem stepFrom_append (start : Position) (inLine : start <+: stepFrom (start ++ p) step)
    (notTop : start ≠ []) :
    ∃ q, ∀ other, stepFrom (other ++ p) step = other ++ q := by
  unfold stepFrom at inLine ⊢
  split
  · exact ⟨p, fun _ => rfl⟩
  case isFalse notIdle =>
    rw [if_neg notIdle] at inLine
    split
    case isTrue up =>
      rw [if_pos up] at inLine
      cases p with
      | nil =>
        have shorter : start.length ≤ start.dropLast.length := by
          simpa only [List.append_nil] using inLine.length_le
        have long : start.length ≠ 0 := mt List.length_eq_zero_iff.mp notTop
        rw [List.length_dropLast] at shorter
        omega
      | cons name rest =>
        exact ⟨(name :: rest).dropLast, fun _ =>
          List.dropLast_append_of_ne_nil (List.cons_ne_nil name rest)⟩
    · exact ⟨p ++ [step], fun _ => List.append_assoc _ _ _⟩

/-- Steps that never lead out of a folder other than the top lead to the same place in any
folder. -/
theorem exists_reached (notTop : start ≠ [])
    (under : ∀ k ≤ steps.length, start <+: reached start (steps.take k)) {k : Nat}
    (within : k ≤ steps.length) :
    ∃ p, ∀ other, reached other (steps.take k) = other ++ p := by
  induction k with
  | zero => exact ⟨[], fun other => (List.append_nil other).symm⟩
  | succ k ih =>
    obtain ⟨p, place⟩ := ih (Nat.le_of_succ_le within)
    have inLine : start <+: stepFrom (start ++ p) steps[k] := by
      rw [← place, ← reached_take_succ]
      exact under (k + 1) within
    obtain ⟨q, next⟩ := stepFrom_append start inLine notTop
    refine ⟨q, fun other => ?_⟩
    rw [reached_take_succ other within, place, next]

/-- Steps that keep to the line from some folder other than the top do so from every folder. -/
theorem StaysInLine.of_ne_nil (notTop : start ≠ []) (stays : StaysInLine start steps)
    (other : Position) : StaysInLine other steps := by
  intro k within
  have under : ∀ k ≤ steps.length, start <+: reached start (steps.take k) :=
    fun k within => (stays k within).1
  obtain ⟨p, place⟩ := exists_reached notTop under within
  obtain ⟨q, last⟩ := exists_reached notTop under (Nat.le_refl steps.length)
  rw [List.take_length] at last
  have inLine : p <+: q := by
    have ahead := (stays k within).2
    rwa [place, last, List.prefix_append_right_inj] at ahead
  rw [place, last]
  exact ⟨List.prefix_append other p, (List.prefix_append_right_inj other).mpr inLine⟩

/-- The way to a folder comes to each folder on the line between, the way being in line with
it. -/
theorem exists_arrival (target : q <+: reached start steps) {k : Nat} (within : k ≤ steps.length)
    (inLine : ∀ j ≤ steps.length, k ≤ j → reached start (steps.take j) <+: reached start steps)
    (here : reached start (steps.take k) <+: q) :
    ∃ l ≤ steps.length, k ≤ l ∧ reached start (steps.take l) = q
      ∧ ∀ j ≤ l, k ≤ j → reached start (steps.take j) <+: q := by
  classical
  have comes : ∃ l, k ≤ l ∧ l ≤ steps.length ∧ q <+: reached start (steps.take l) :=
    ⟨steps.length, within, Nat.le_refl _, by rwa [List.take_length]⟩
  obtain ⟨from_, upTo, there⟩ := Nat.find_spec comes
  have before : ∀ j < Nat.find comes, k ≤ j →
      reached start (steps.take j) <+: q ∧ ¬ q <+: reached start (steps.take j) := by
    intro j earlier later
    have inside : j ≤ steps.length := earlier.le.trans upTo
    have not_yet : ¬ q <+: reached start (steps.take j) :=
      fun already => Nat.find_min comes earlier ⟨later, inside, already⟩
    rcases List.prefix_or_prefix_of_prefix target (inLine j inside later) with already | ahead
    · exact absurd already not_yet
    · exact ⟨ahead, not_yet⟩
  have arrived : reached start (steps.take (Nat.find comes)) = q := by
    rcases Nat.eq_or_lt_of_le from_ with same | after
    · rw [← same] at there ⊢
      exact here.eq_of_length_le there.length_le
    · obtain ⟨j, found⟩ : ∃ j, Nat.find comes = j + 1 :=
        ⟨_, (Nat.succ_pred_eq_of_pos (Nat.zero_lt_of_lt after)).symm⟩
      have inside : j < steps.length := by omega
      obtain ⟨ahead, not_yet⟩ := before j (by omega) (by omega)
      have shorter : (reached start (steps.take j)).length < q.length := by
        refine lt_of_le_of_ne ahead.length_le fun same => not_yet ?_
        rw [ahead.eq_of_length same]
      have step := length_stepFrom_le (reached start (steps.take j)) steps[j]
      rw [← reached_take_succ, ← found] at step
      exact (there.eq_of_length_le (by omega)).symm
  refine ⟨Nat.find comes, upTo, from_, arrived, fun j earlier later => ?_⟩
  rcases Nat.eq_or_lt_of_le earlier with rfl | earlier
  · rw [arrived]
  · exact (before j earlier later).1

end FilePath

end PrivilegeCatalog
