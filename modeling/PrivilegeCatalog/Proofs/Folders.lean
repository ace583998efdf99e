import PrivilegeCatalog.Proofs.FilePath
import PrivilegeCatalog.Proofs.FileTree

/-!
# Folders on the way

What is found somewhere is found through folders (`isFolder_of_find?`), and a path leads to
something exactly when all that it passes through are folders (`follow_eq_found_iff`). What is put
into a tree leaves everything else where it was, so there are trees with any folders and a single
file, as long as no folder is under the file (`exists_single_file`).
-/

namespace PrivilegeCatalog

namespace FileTree

variable {t : FileTree} {p q : Position} {node : FileTree}

/-- There is a folder at a position. -/
def IsFolder (t : FileTree) (p : Position) : Prop := ∃ entries, t.find? p = some (folder entries)

/-- What has something in it is a folder. -/
theorem isFolder_of_find? (found : t.find? (p ++ q) = some node) (further : q ≠ []) :
    t.IsFolder p := by
  rw [find?_append] at found
  obtain ⟨there, place, below⟩ := Option.bind_eq_some_iff.mp found
  cases there with
  | folder entries => exact ⟨entries, place⟩
  | file content =>
    cases q with
    | nil => exact absurd rfl further
    | cons name rest => cases below

/-- On the way to a folder there are folders. -/
theorem IsFolder.on_way (there : t.IsFolder q) (way : p <+: q) : t.IsFolder p := by
  obtain ⟨rest, rfl⟩ := way
  obtain ⟨entries, found⟩ := there
  cases rest with
  | nil => exact ⟨entries, by rwa [List.append_nil] at found⟩
  | cons name rest => exact isFolder_of_find? found (List.cons_ne_nil name rest)

/-- Where something is put, nothing changes but on the way to it and under it. -/
theorem find?_put_apart (t node : FileTree) (apart : ¬ p <+: q) :
    (t.put p node).find? q = t.find? q ∨ (t.put p node).IsFolder q := by
  induction p generalizing t q with
  | nil => exact absurd List.nil_prefix apart
  | cons name rest ih =>
    cases q with
    | nil => exact .inr ⟨_, rfl⟩
    | cons next more =>
      unfold IsFolder
      rw [find?, find?, child?_put]
      by_cases here : name = next
      · subst here
        have apart' : ¬ rest <+: more := fun way => apart ((List.prefix_cons_inj name).mpr way)
        rw [if_pos rfl, Option.bind_some]
        rcases ih ((t.child? name).getD (folder [])) apart' with as_before | made
        · cases under : t.child? name with
          | some child =>
            rw [under] at as_before
            exact .inl as_before
          | none =>
            rw [under] at as_before
            cases more with
            | nil => exact .inr ⟨[], as_before⟩
            | cons _ _ => exact .inl as_before
        · exact .inr made
      · rw [if_neg here]
        exact .inl rfl

/-- An empty folder or a file that is put in a place has nothing under it. -/
theorem find?_put_under (t node : FileTree) (bare : ∀ name, node.child? name = none)
    (way : p <+: q) (further : p ≠ q) : (t.put p node).find? q = none := by
  obtain ⟨rest, rfl⟩ := way
  rw [find?_append, find?_put, Option.bind_some]
  cases rest with
  | nil => exact absurd (List.append_nil p).symm further
  | cons name rest => rw [find?, bare, Option.bind_none]

/-- There may be any folders, and no file. -/
theorem exists_folders (folders : List Position) :
    ∃ t : FileTree, (∀ p ∈ folders, t.IsFolder p)
      ∧ ∀ q content, t.find? q ≠ some (file content) := by
  induction folders with
  | nil =>
    refine ⟨folder [], nofun, fun q content found => ?_⟩
    cases q <;> cases found
  | cons p rest ih =>
    obtain ⟨t, made, noFile⟩ := ih
    by_cases already : t.IsFolder p
    · exact ⟨t, List.forall_mem_cons.mpr ⟨already, made⟩, noFile⟩
    · have bare : ∀ name, (folder []).child? name = none := fun _ => rfl
      refine ⟨t.put p (folder []), List.forall_mem_cons.mpr ⟨⟨[], t.find?_put p _⟩, ?_⟩, ?_⟩
      · intro q old
        rcases t.find?_put_apart (folder [])
          (fun way => already ((made q old).on_way way)) with as_before | made'
        · obtain ⟨entries, found⟩ := made q old
          exact ⟨entries, as_before.trans found⟩
        · exact made'
      · intro q content found
        by_cases way : p <+: q
        · by_cases same : p = q
          · subst same
            rw [find?_put] at found
            cases found
          · rw [t.find?_put_under _ bare way same] at found
            cases found
        · rcases t.find?_put_apart (folder []) way with as_before | ⟨entries, made'⟩
          · exact noFile q content (as_before.symm.trans found)
          · rw [made'] at found
            cases found

/-- There may be any folders and a single file, where none of the folders is at its place or under
it. -/
theorem exists_single_file (folders : List Position) (place : Position)
    (apart : ∀ p ∈ folders, ¬ place <+: p) :
    ∃ t : FileTree, (∀ p ∈ folders, t.IsFolder p) ∧ t.find? place = some (file [])
      ∧ ∀ q content, t.find? q = some (file content) → q = place := by
  obtain ⟨t, made, noFile⟩ := exists_folders folders
  have bare : ∀ name, (file []).child? name = none := fun _ => rfl
  refine ⟨t.put place (file []), fun p old => ?_, t.find?_put place _, fun q content found => ?_⟩
  · rcases t.find?_put_apart (file []) (apart p old) with as_before | made'
    · obtain ⟨entries, found⟩ := made p old
      exact ⟨entries, as_before.trans found⟩
    · exact made'
  · by_contra elsewhere
    by_cases way : place <+: q
    · rw [t.find?_put_under _ bare way (Ne.symm elsewhere)] at found
      cases found
    · rcases t.find?_put_apart (file []) way with as_before | ⟨entries, made'⟩
      · exact noFile q content (as_before.symm.trans found)
      · rw [made'] at found
        cases found

end FileTree

namespace Workspace

open FilePath (reached stepFrom)

/-- A path leads to something when there are folders all the way. -/
theorem follow_eq_found_iff {w : Workspace} {base q : Position} {steps : List String}
    {node : FileTree} :
    w.follow base steps = .found q node
      ↔ (∀ k < steps.length, w.tree.IsFolder (reached base (steps.take k)))
        ∧ q = reached base steps ∧ w.tree.find? q = some node := by
  induction steps generalizing base with
  | nil =>
    rw [follow]
    constructor
    · intro found
      cases there : w.tree.find? base with
      | none =>
        rw [there] at found
        cases found
      | some _ =>
        rw [there] at found
        cases found
        exact ⟨fun k below => absurd below (Nat.not_lt_zero k), rfl, there⟩
    · rintro ⟨-, here, there⟩
      have same : q = base := here
      rw [← same, there]
  | cons step rest ih =>
    have next : w.follow base (step :: rest) = .found q node
        ↔ w.tree.IsFolder base ∧ w.follow (stepFrom base step) rest = .found q node := by
      rw [follow, FileTree.IsFolder]
      cases there : w.tree.find? base with
      | none => simp
      | some at_ =>
        cases at_ with
        | file content => simp
        | folder entries => simp [stepFrom]
    rw [next, ih, List.length_cons, Nat.forall_lt_succ_left, and_assoc]
    rfl

end Workspace

end PrivilegeCatalog
