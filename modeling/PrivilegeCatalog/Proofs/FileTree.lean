import PrivilegeCatalog.FileTree

/-!
# Storing a file

When a file is stored where there is one, every path leads where it led before, to a file or to a
folder as before (`follow_store`), and the file that was stored is found in its place. What is a
place for a file stays one (`target_store`). A file that is stored where a path has a place for
one, whether it is new or not, changes no other file (`file?_store`).
-/

namespace PrivilegeCatalog

namespace FileTree

variable {name other : String} {node a b t : FileTree} {entries : List (String × FileTree)}

theorem child?_putEntry :
    (folder (putEntry name node entries)).child? other
      = if name = other then some node else (folder entries).child? other := by
  simp only [child?]
  induction entries with
  | nil => by_cases same : name = other <;> simp [putEntry, same]
  | cons entry rest ih =>
    obtain ⟨first, old⟩ := entry
    rw [putEntry]
    by_cases there : first = name
    · subst there
      by_cases same : first = other <;> simp [same]
    · by_cases same : first = other
      · subst same
        simp [there, Ne.symm there]
      · simp only [beq_iff_eq, there, if_false]
        simpa [same] using ih

/-- Something is put into a tree as into the folder of what the tree holds. -/
theorem exists_put (t : FileTree) :
    ∃ entries, (∀ name, (folder entries).child? name = t.child? name)
      ∧ ∀ name rest node, t.put (name :: rest) node
        = folder (putEntry name (((t.child? name).getD (folder [])).put rest node) entries) := by
  cases t with
  | file content => exact ⟨[], fun _ => rfl, fun _ _ _ => rfl⟩
  | folder entries => exact ⟨entries, fun _ => rfl, fun _ _ _ => rfl⟩

/-- What is put further down changes one child, and it changes there. -/
theorem child?_put (t : FileTree) (rest : Position) (node : FileTree) :
    (t.put (name :: rest) node).child? other
      = if name = other then some (((t.child? name).getD (folder [])).put rest node)
        else t.child? other := by
  obtain ⟨entries, same, put_⟩ := t.exists_put
  rw [put_, child?_putEntry, same]

/-- What was put is found in its place. -/
theorem find?_put (t : FileTree) (position : Position) (node : FileTree) :
    (t.put position node).find? position = some node := by
  induction position generalizing t with
  | nil => cases t <;> rfl
  | cons name rest ih => rw [find?, child?_put, if_pos rfl, Option.bind_some, ih]

theorem find?_append (t : FileTree) (p q : Position) :
    t.find? (p ++ q) = (t.find? p).bind (·.find? q) := by
  induction p generalizing t with
  | nil => rfl
  | cons name rest ih =>
    rw [List.cons_append, find?, find?]
    cases t.child? name with
    | none => rfl
    | some child => exact ih child

theorem putEntry_putEntry :
    putEntry name b (putEntry name a entries) = putEntry name b entries := by
  induction entries with
  | nil => simp [putEntry]
  | cons entry rest ih =>
    obtain ⟨first, old⟩ := entry
    by_cases there : first = name <;> simp [putEntry, there, ih]

/-- What is put in one place for the second time takes the place of the first. -/
theorem put_put (t : FileTree) (position : Position) (a b : FileTree) :
    (t.put position a).put position b = t.put position b := by
  induction position generalizing t with
  | nil => cases t <;> rfl
  | cons name rest ih =>
    obtain ⟨entries, -, put_⟩ := t.exists_put
    have again : ∀ entries, (folder entries).put (name :: rest) b
        = folder (putEntry name ((((folder entries).child? name).getD (folder [])).put rest b)
            entries) := fun _ => rfl
    rw [put_, put_, again, child?_putEntry, if_pos rfl, Option.getD_some, putEntry_putEntry, ih]

/-- Both are nothing, both are files, or both are folders. -/
inductive SameKind : Option FileTree → Option FileTree → Prop
  | none : SameKind none none
  | file {old new : Bytes} : SameKind (some (file old)) (some (file new))
  | folder {old new : List (String × FileTree)} : SameKind (some (folder old)) (some (folder new))

theorem SameKind.refl (found : Option FileTree) : SameKind found found := by
  rcases found with _ | _ | _
  · exact .none
  · exact .file
  · exact .folder

theorem sameKind_cases {before now : Option FileTree} (kind : SameKind before now) :
    (before = none ∧ now = none)
      ∨ (∃ old new, before = some (file old) ∧ now = some (file new))
      ∨ ∃ old new, before = some (folder old) ∧ now = some (folder new) := by
  cases kind with
  | none => exact .inl ⟨rfl, rfl⟩
  | file => exact .inr (.inl ⟨_, _, rfl, rfl⟩)
  | folder => exact .inr (.inr ⟨_, _, rfl, rfl⟩)

/-- A file in the place of a file leaves everything of the kind that it was. -/
theorem sameKind_put {old new : Bytes} {position : Position}
    (there : t.find? position = some (.file old)) (q : Position) :
    SameKind (t.find? q) ((t.put position (.file new)).find? q) := by
  induction position generalizing t q with
  | nil =>
    cases Option.some.inj there
    cases q with
    | nil => exact .file
    | cons name rest => exact .none
  | cons name rest ih =>
    obtain ⟨child, within, below⟩ := Option.bind_eq_some_iff.mp there
    cases t with
    | file content => cases within
    | folder entries =>
      cases q with
      | nil => exact .folder
      | cons next more =>
        rw [find?, find?, child?_put]
        by_cases here : name = next
        · rw [if_pos here, ← here, within]
          exact ih below more
        · rw [if_neg here]
          exact .refl _

/-- The content of the file at a position, if there is one. -/
def file? (t : FileTree) (position : Position) : Option Bytes :=
  match t.find? position with
  | some (file content) => some content
  | _ => none

theorem file?_cons (name : String) (rest : Position) :
    t.file? (name :: rest) = (t.child? name).bind (·.file? rest) := by
  rw [file?, find?]
  cases t.child? name <;> rfl

theorem file?_put_cons (t : FileTree) (rest more : Position) (node : FileTree) :
    (t.put (name :: rest) node).file? (other :: more)
      = if name = other then (((t.child? name).getD (folder [])).put rest node).file? more
        else t.file? (other :: more) := by
  rw [file?_cons, file?_cons, child?_put]
  split
  · rw [Option.bind_some]
  · rfl

/-- Nothing is under what is no folder. -/
theorem file?_under {position : Position}
    (free : ∀ below, t.find? position ≠ some (folder below)) (step : String) (more : Position) :
    t.file? (position ++ step :: more) = none := by
  rw [file?, find?_append]
  cases there : t.find? position with
  | none => rfl
  | some node =>
    cases node with
    | file old => rfl
    | folder below => exact absurd there (free below)

theorem file?_put_entry {content : Bytes}
    (free : ∀ below, (folder entries).find? [name] ≠ some (folder below)) (q : Position) :
    ((folder entries).put [name] (file content)).file? q
      = if q = [name] then some content else (folder entries).file? q := by
  cases q with
  | nil => rfl
  | cons next more =>
    rw [file?_put_cons, put]
    by_cases here : name = next
    · subst here
      rw [if_pos rfl]
      cases more with
      | nil => exact (if_pos rfl).symm
      | cons step more =>
        rw [if_neg (by simp)]
        exact (file?_under free step more).symm
    · rw [if_neg here, if_neg fun same => here (List.cons.inj same).1.symm]

/-- A file that is put into a folder is found there, and no other file is changed. -/
theorem file?_put {position : Position} {content : Bytes} {within : List (String × FileTree)}
    (there : t.find? position = some (folder within))
    (free : ∀ below, t.find? (position ++ [name]) ≠ some (folder below)) (q : Position) :
    (t.put (position ++ [name]) (file content)).file? q
      = if q = position ++ [name] then some content else t.file? q := by
  induction position generalizing t q with
  | nil =>
    cases Option.some.inj there
    exact file?_put_entry free q
  | cons step position ih =>
    obtain ⟨child, under, below⟩ := Option.bind_eq_some_iff.mp there
    have into : ∀ q, t.find? (step :: q) = child.find? q := by
      intro q
      rw [find?, under, Option.bind_some]
    cases q with
    | nil =>
      cases t with
      | file old => cases under
      | folder entries => rfl
    | cons next more =>
      rw [List.cons_append, file?_put_cons]
      by_cases here : step = next
      · subst here
        have free' : ∀ below, child.find? (position ++ [name]) ≠ some (folder below) := by
          intro within
          rw [← into]
          exact free within
        rw [if_pos rfl, under, Option.getD_some, ih below free' more, file?_cons, under,
          Option.bind_some]
        simp only [List.cons.injEq, true_and]
      · rw [if_neg here, if_neg fun same => here (List.cons.inj same).1.symm]

end FileTree

/-! ## Paths -/

/-- The files after a file has been stored. -/
def Workspace.store (w : Workspace) (position : Position) (content : Bytes) : Workspace :=
  { w with tree := w.tree.put position (.file content) }

namespace Workspace

open FileTree (SameKind sameKind_cases)

variable {w : Workspace} {position : Position} {old new : Bytes}

theorem store_store (w : Workspace) (position : Position) (old new : Bytes) :
    (w.store position old).store position new = w.store position new := by
  rw [store, store, store, FileTree.put_put]

/-- Files with different content stored in one place are different. -/
theorem store_inj : w.store position old = w.store position new ↔ old = new := by
  constructor
  · intro same
    have found : (w.tree.put position (.file old)).find? position
        = (w.tree.put position (.file new)).find? position :=
      congrArg (fun files : Workspace => files.tree.find? position) same
    rw [FileTree.find?_put, FileTree.find?_put] at found
    cases found
    rfl
  · intro same
    rw [same]

/-- What is at the end of a path is what is found at its position. -/
theorem find?_of_follow {start q : Position} {steps : List String} {node : FileTree}
    (found : w.follow start steps = .found q node) : w.tree.find? q = some node := by
  induction steps generalizing start with
  | nil =>
    rw [follow] at found
    split at found
    case h_1 there =>
      cases found
      exact there
    case h_2 => cases found
  | cons step rest ih =>
    rw [follow] at found
    split at found
    · exact ih found
    · cases found
    · cases found

/-- Paths lead to the same places, and there to things of the same kind. -/
inductive SameLook : Look → Look → Prop
  | missing : SameLook .missing .missing
  | blocked : SameLook .blocked .blocked
  | found {q : Position} {a b : FileTree} (same : SameKind (some a) (some b)) :
      SameLook (.found q a) (.found q b)

theorem sameKind_store (there : w.tree.find? position = some (.file old)) (new : Bytes)
    (q : Position) :
    SameKind (w.tree.find? q) ((w.store position new).tree.find? q) :=
  FileTree.sameKind_put there q

/-- A file in the place of a file leaves every path leading where it led. -/
theorem follow_store (there : w.tree.find? position = some (.file old)) (start : Position)
    (steps : List String) :
    SameLook (w.follow start steps) ((w.store position new).follow start steps) := by
  induction steps generalizing start with
  | nil =>
    rw [follow, follow]
    rcases sameKind_cases (sameKind_store there new start) with
      ⟨before, now⟩ | ⟨_, _, before, now⟩ | ⟨_, _, before, now⟩ <;> rw [before, now]
    · exact .missing
    · exact .found .file
    · exact .found .folder
  | cons step rest ih =>
    rw [follow, follow]
    rcases sameKind_cases (sameKind_store there new start) with
      ⟨before, now⟩ | ⟨_, _, before, now⟩ | ⟨_, _, before, now⟩ <;> rw [before, now]
    · exact .missing
    · exact .blocked
    · exact ih _

/-- What a path leads to is found where it was stored, by the same steps. -/
theorem follow_store_found {start : Position} {steps : List String}
    (found : w.follow start steps = .found position (.file old)) :
    (w.store position new).follow start steps = .found position (.file new) := by
  have there := find?_of_follow found
  have same : SameLook (w.follow start steps) ((w.store position new).follow start steps) :=
    follow_store there start steps
  rw [found] at same
  cases look : (w.store position new).follow start steps with
  | missing =>
    rw [look] at same
    cases same
  | blocked =>
    rw [look] at same
    cases same
  | found q node =>
    rw [look] at same
    cases same
    have stays : (w.store position new).tree.find? position = some (.file new) :=
      w.tree.find?_put position (.file new)
    rw [Option.some.inj (stays.symm.trans (find?_of_follow look))]

theorem find?_of_lookText {text : String} {node : FileTree}
    (found : w.lookText text = .found position node) : w.tree.find? position = some node := by
  unfold lookText at found
  split at found
  · cases found
  · exact find?_of_follow found

/-- A document is found where it was stored, under the names that it had. -/
theorem lookText_store {text : String} (found : w.lookText text = .found position (.file old)) :
    (w.store position new).lookText text = .found position (.file new) := by
  unfold lookText at found ⊢
  split at found
  · cases found
  case isFalse text_ =>
    rw [if_neg text_]
    exact follow_store_found found

/-- What was a place for a file stays one. -/
theorem target_store (there : w.tree.find? position = some (.file old)) (path : FilePath) :
    (w.store position new).target path = w.target path := by
  have same : SameLook (w.look { path with names := path.names.dropLast })
      ((w.store position new).look { path with names := path.names.dropLast }) :=
    follow_store there _ _
  unfold target
  revert same
  generalize w.look { path with names := path.names.dropLast } = before,
    (w.store position new).look { path with names := path.names.dropLast } = now
  intro same
  cases same with
  | missing => rfl
  | blocked => rfl
  | @found q _ _ kind =>
    cases kind with
    | file => rfl
    | folder =>
      cases path.name? with
      | none => rfl
      | some name =>
        dsimp only
        rcases sameKind_cases (sameKind_store there new (q ++ [name])) with
          ⟨before, now⟩ | ⟨_, _, before, now⟩ | ⟨_, _, before, now⟩ <;> rw [before, now]

/-- The content of the file at a position, if there is one. -/
def file? (w : Workspace) (position : Position) : Option Bytes := w.tree.file? position

/-- A file is stored in its place, and no other file is changed. -/
theorem file?_store {path : FilePath} (target : w.target path = .ok position) (content : Bytes)
    (q : Position) :
    (w.store position content).file? q = if q = position then some content else w.file? q := by
  unfold Workspace.target at target
  split at target
  case h_5 folder within name looked named =>
    split at target
    · cases target
    · split at target
      · cases target
      case h_2 free =>
        cases target
        exact FileTree.file?_put (find?_of_follow looked) free q
  all_goals cases target

end Workspace

end PrivilegeCatalog
