import PrivilegeCatalog.Proofs.Folders
import PrivilegeCatalog.Settings

/-!
# Where settings are found

Settings for a folder are looked for in the folder itself and in those above it, up to where the
path to the folder starts (`InLine`). The search takes names off the end of the path instead. The
folders that it comes to are those and no others when the names keep to the line of folders
between the start of the path and its end (`StaysInLine`), and then it finds the nearest file of
settings (`findsNearest_of_staysInLine`). Names without double dots keep to that line. With double
dots a path may pass through other folders, and then there are files with which the search answers
another file than the nearest, or one when there is none (`search_is_nearest_iff`).
-/

namespace PrivilegeCatalog

namespace Settings

open FilePath (reached StaysInLine)
open FileTree (IsFolder)

variable {w : Workspace} {start : FilePath} {base stop p q : Position}

/-- There is a file of settings in a folder. -/
def HoldsSettings (t : FileTree) (p : Position) : Prop :=
  ∃ content, t.find? (p ++ [ownFile]) = some (.file content)

/-- Whether a folder is the one in which a path ends, or one above it up to where the path
starts. -/
def InLine (base stop p : Position) : Prop := p = stop ∨ p <+: stop ∧ base <+: p

/-- The search answers with the nearest file of settings in line with a path, and with nothing
when there is none. -/
def FindsNearest (w : Workspace) (start : FilePath) : Prop :=
  let base := w.start start.top
  let stop := reached base start.names
  match search w start with
  | some path =>
    ∃ p content, InLine base stop p ∧ w.look path = .found (p ++ [ownFile]) (.file content)
      ∧ ∀ q, InLine base stop q → HoldsSettings w.tree q → q <+: p
  | none => ∀ p, InLine base stop p → ¬ HoldsSettings w.tree p

/-- The search can come to a file of settings after some names of a path. -/
def Usable (w : Workspace) (start : FilePath) (k : Nat) : Prop :=
  (∀ j ≤ k, w.tree.IsFolder (reached (w.start start.top) (start.names.take j)))
    ∧ HoldsSettings w.tree (reached (w.start start.top) (start.names.take k))

/-- The path of a file of settings after some names of a path. -/
def candidate (start : FilePath) (k : Nat) : FilePath :=
  FilePath.child { start with names := start.names.take k } ownFile

/-- Where the search comes to a file of settings. -/
theorem look_candidate {k : Nat} (within : k ≤ start.names.length) {content : Bytes} :
    w.look (candidate start k) = .found q (.file content)
      ↔ (∀ j ≤ k, w.tree.IsFolder (reached (w.start start.top) (start.names.take j)))
        ∧ q = reached (w.start start.top) (start.names.take k) ++ [ownFile]
        ∧ w.tree.find? q = some (.file content) := by
  have whole : (start.names.take k ++ [ownFile]).length = k + 1 := by
    rw [List.length_append, List.length_take_of_le within, List.length_singleton]
  have parts : ∀ j ≤ k, (start.names.take k ++ [ownFile]).take j = start.names.take j := by
    intro j before
    rw [List.take_append_of_le_length (by rwa [List.length_take_of_le within]), List.take_take,
      Nat.min_eq_left before]
  rw [Workspace.look, Workspace.follow_eq_found_iff]
  change (∀ j < (start.names.take k ++ [ownFile]).length, w.tree.IsFolder
    (reached (w.start start.top) ((start.names.take k ++ [ownFile]).take j))) ∧
      q = reached (w.start start.top) (start.names.take k ++ [ownFile]) ∧ _ ↔ _
  rw [whole, FilePath.reached_append]
  refine and_congr_left' ⟨fun folders j before => ?_, fun folders j before => ?_⟩
  · rw [← parts j before]
    exact folders j (Nat.lt_succ_of_le before)
  · rw [parts j (Nat.le_of_lt_succ before)]
    exact folders j (Nat.le_of_lt_succ before)

theorem hasFile_candidate {k : Nat} (within : k ≤ start.names.length) :
    w.hasFile (candidate start k) = true ↔ Usable w start k := by
  have found : w.hasFile (candidate start k) = true
      ↔ ∃ q content, w.look (candidate start k) = .found q (.file content) := by
    unfold Workspace.hasFile
    cases w.look (candidate start k) with
    | found position node => cases node <;> simp
    | missing => simp
    | blocked => simp
  rw [found]
  constructor
  · rintro ⟨q, content, looked⟩
    obtain ⟨folders, rfl, there⟩ := (look_candidate within).mp looked
    exact ⟨folders, content, there⟩
  · rintro ⟨folders, content, there⟩
    exact ⟨_, content, (look_candidate within).mpr ⟨folders, rfl, there⟩⟩

/-- The search takes as many names of a path as it can. -/
theorem search_eq_some {path : FilePath} (found : search w start = some path) :
    ∃ k ≤ start.names.length, path = candidate start k ∧ Usable w start k
      ∧ ∀ l ≤ start.names.length, Usable w start l → l ≤ k := by
  rw [search, FilePath.chain, List.map_map, List.find?_map, Option.map_eq_some_iff] at found
  obtain ⟨n, first, rfl⟩ := found
  obtain ⟨usable, inside, earlier⟩ := List.find?_range_eq_some.mp first
  refine ⟨start.names.length - n, Nat.sub_le _ _, rfl,
    (hasFile_candidate (Nat.sub_le _ _)).mp usable, fun l within usable' => ?_⟩
  by_contra more
  have refused := earlier (start.names.length - l) (by omega)
  have again : start.names.length - (start.names.length - l) = l := by omega
  have accepted : w.hasFile (candidate start (start.names.length - (start.names.length - l)))
      = true := by
    rw [again]
    exact (hasFile_candidate within).mpr usable'
  have both : (!w.hasFile (candidate start (start.names.length - (start.names.length - l))))
    = true :=
    refused
  rw [accepted] at both
  cases both

theorem search_eq_none (found : search w start = none) {k : Nat}
    (within : k ≤ start.names.length) : ¬ Usable w start k := by
  intro usable
  have noneHas := List.find?_eq_none.mp found (candidate start k) (by
    rw [FilePath.chain, List.map_map, List.mem_map]
    refine ⟨start.names.length - k, List.mem_range.mpr (by omega), ?_⟩
    rw [Function.comp_apply, Nat.sub_sub_self within]
    rfl)
  exact noneHas ((hasFile_candidate within).mpr usable)

/-! ## Paths that keep to the line -/

/-- In line with a path that keeps to it, a folder is above its end. -/
theorem InLine.prefixes {steps : List String} (stays : StaysInLine base steps)
    (inLine : InLine base (reached base steps) p) : base <+: p ∧ p <+: reached base steps := by
  rcases inLine with rfl | ⟨upper, lower⟩
  · exact ⟨(stays 0 (Nat.zero_le _)).2, List.prefix_refl _⟩
  · exact ⟨lower, upper⟩

/-- A file of settings in line with a path can be come to from where the path has got to above
it. -/
theorem exists_usable (stays : StaysInLine (w.start start.top) start.names) {k : Nat}
    (within : k ≤ start.names.length)
    (folders : ∀ j < k, w.tree.IsFolder (reached (w.start start.top) (start.names.take j)))
    (inLine : InLine (w.start start.top) (reached (w.start start.top) start.names) p)
    (here : reached (w.start start.top) (start.names.take k) <+: p)
    (holds : HoldsSettings w.tree p) :
    ∃ l ≤ start.names.length, k ≤ l ∧ reached (w.start start.top) (start.names.take l) = p
      ∧ Usable w start l := by
  obtain ⟨l, upTo, later, arrived, way⟩ :=
    FilePath.exists_arrival (inLine.prefixes stays).2 within
    (fun j inside _ => (stays j inside).2) here
  obtain ⟨content, there⟩ := holds
  have folder : w.tree.IsFolder p := FileTree.isFolder_of_find? there (List.cons_ne_nil _ _)
  refine ⟨l, upTo, later, arrived, fun j before => ?_, content, by rwa [arrived]⟩
  rcases Nat.lt_or_ge j k with earlier | after
  · exact folders j earlier
  · exact folder.on_way (way j before after)

/-- With a path that keeps to the line the search finds the nearest file. -/
theorem findsNearest_of_staysInLine (stays : StaysInLine (w.start start.top) start.names) :
    FindsNearest w start := by
  unfold FindsNearest
  dsimp only
  cases found : search w start with
  | some path =>
    obtain ⟨k, within, rfl, usable, most⟩ := search_eq_some found
    obtain ⟨folders, content, there⟩ := usable
    obtain ⟨lower, upper⟩ := stays k within
    refine ⟨_, content, .inr ⟨upper, lower⟩,
      (look_candidate within).mpr ⟨folders, rfl, there⟩, ?_⟩
    intro q inLine holds
    rcases List.prefix_or_prefix_of_prefix upper (inLine.prefixes stays).2 with above | below
    · obtain ⟨l, upTo, later, arrived, usable'⟩ := exists_usable stays within
        (fun j before => folders j before.le) inLine above holds
      have same : l = k := Nat.le_antisymm (most l upTo usable') later
      rw [← arrived, same]
    · exact below
  | none =>
    intro p inLine holds
    obtain ⟨l, upTo, -, -, usable⟩ := exists_usable stays (Nat.zero_le _) nofun inLine
      (inLine.prefixes stays).1 holds
    exact search_eq_none found upTo usable

/-! ## Paths that leave the line -/

/-- When a path has folders all the way to where it leaves the line, and the only file is one of
settings there, the search answers with it. -/
theorem not_findsNearest {k : Nat} (within : k ≤ start.names.length)
    (folders : ∀ j ≤ k, w.tree.IsFolder (reached (w.start start.top) (start.names.take j)))
    (there : w.tree.find? (reached (w.start start.top) (start.names.take k) ++ [ownFile])
      = some (.file []))
    (only : ∀ q content, w.tree.find? q = some (.file content) →
      q = reached (w.start start.top) (start.names.take k) ++ [ownFile])
    (out : ¬ InLine (w.start start.top) (reached (w.start start.top) start.names)
      (reached (w.start start.top) (start.names.take k))) :
    ¬ FindsNearest w start := by
  intro nearest
  unfold FindsNearest at nearest
  dsimp only at nearest
  cases found : search w start with
  | some path =>
    rw [found] at nearest
    obtain ⟨p, content, inLine, looked, -⟩ := nearest
    have place := only _ content (Workspace.find?_of_follow looked)
    rw [List.append_cancel_right place] at inLine
    exact out inLine
  | none => exact search_eq_none found within ⟨folders, [], there⟩

/-- When a path leaves the line from the folder in which one works, and the place in question is
not under a file of settings there, there are files with which the search does not find the
nearest. -/
theorem exists_not_findsNearest (w : Workspace) {k : Nat} (within : k ≤ start.names.length)
    (apart : ∀ j ≤ k, ¬ reached (w.start start.top) (start.names.take k) ++ [ownFile]
      <+: reached (w.start start.top) (start.names.take j))
    (out : ¬ InLine (w.start start.top) (reached (w.start start.top) start.names)
      (reached (w.start start.top) (start.names.take k))) :
    ∃ t, ¬ FindsNearest { w with tree := t } start := by
  obtain ⟨t, made, there, only⟩ := FileTree.exists_single_file
    ((List.range (k + 1)).map fun j => reached (w.start start.top) (start.names.take j))
    (reached (w.start start.top) (start.names.take k) ++ [ownFile]) (by
      rintro p listed
      obtain ⟨j, before, rfl⟩ := List.mem_map.mp listed
      exact apart j (Nat.le_of_lt_succ (List.mem_range.mp before)))
  refine ⟨t,
    not_findsNearest (w := { w with tree := t }) within (fun j before => ?_) there only out⟩
  exact made _ (List.mem_map.mpr ⟨j, List.mem_range.mpr (Nat.lt_succ_of_le before), rfl⟩)

/-- On the way to where a path first leaves the line, nothing stands in or under the place of the
file of settings there, unless the folder where the path starts has the name of such a file. -/
theorem apart_of_first_out {steps : List String} {k : Nat} (within : k ≤ steps.length)
    (out :
    ¬ (base <+: reached base (steps.take k) ∧ reached base (steps.take k) <+: reached base steps))
    (before : ∀ j < k, base <+: reached base (steps.take j)
      ∧ reached base (steps.take j) <+: reached base steps)
    (named : base.getLast? ≠ some ownFile) {j : Nat} (upTo : j ≤ k) :
    ¬ reached base (steps.take k) ++ [ownFile] <+: reached base (steps.take j) := by
  intro way
  rcases Nat.eq_or_lt_of_le upTo with rfl | earlier
  · have longer := way.length_le
    rw [List.length_append, List.length_singleton] at longer
    omega
  · obtain ⟨lower, upper⟩ := before j earlier
    have out' : ¬ base <+: reached base (steps.take k) :=
      fun lower' => out ⟨lower', ((List.prefix_append _ _).trans way).trans upper⟩
    obtain ⟨i, rfl⟩ : ∃ i, k = i + 1 := ⟨k - 1, by omega⟩
    rw [FilePath.reached_take_succ base within] at out' way
    obtain ⟨-, up⟩ := FilePath.stepFrom_out (before i (Nat.lt_succ_self i)).1 out'
    rw [up] at out' way
    -- Both are the first names of one way, and as many.
    have same : base = base.dropLast ++ [ownFile] := by
      have long : base.length ≠ 0 := by
        intro top
        rw [List.length_eq_zero_iff.mp top] at out'
        exact out' List.nil_prefix
      refine List.IsPrefix.eq_of_length (List.prefix_of_prefix_length_le lower way ?_) ?_ <;>
      · rw [List.length_append, List.length_dropLast, List.length_singleton]
        omega
    rw [same, List.getLast?_concat] at named
    exact named rfl

/-- A path that does not keep to the line comes to a place out of line, where there may be a file
of settings. -/
theorem exists_out_of_line {steps : List String} (leaves : ¬ StaysInLine base steps)
    (named : base.getLast? ≠ some ownFile) :
    ∃ k ≤ steps.length,
      (∀ j ≤ k, ¬ reached base (steps.take k) ++ [ownFile] <+: reached base (steps.take j))
        ∧ ¬ InLine base (reached base steps) (reached base (steps.take k)) := by
  by_cases under : base <+: reached base steps
  · obtain ⟨k, within, out, before⟩ := FilePath.exists_first_out leaves
    refine ⟨k, within, fun j => apart_of_first_out within out before named, ?_⟩
    rintro (here | ⟨upper, lower⟩)
    · rw [here] at out
      exact out ⟨under, List.prefix_refl _⟩
    · exact out ⟨lower, upper⟩
  · refine ⟨0, Nat.zero_le _, fun j upTo way => ?_, ?_⟩
    · have longer := way.length_le
      rw [Nat.le_zero.mp upTo, List.length_append, List.length_singleton] at longer
      omega
    · rintro (here | ⟨upper, -⟩)
      · exact under (here ▸ List.prefix_refl base)
      · exact under upper

/-- A path with which the search always finds the nearest file keeps to the line. -/
theorem staysInLine_of_findsNearest (nearest : ∀ w, FindsNearest w start) (w : Workspace) :
    StaysInLine (w.start start.top) start.names := by
  have settled : ∀ w : Workspace, (w.start start.top).getLast? ≠ some ownFile →
      StaysInLine (w.start start.top) start.names := by
    intro w named
    by_contra leaves
    obtain ⟨k, within, apart, out⟩ := exists_out_of_line leaves named
    obtain ⟨t, not_nearest⟩ := exists_not_findsNearest w within apart out
    exact not_nearest (nearest _)
  cases top : start.top with
  | some text => exact top ▸ settled w (by rw [top]; nofun)
  | none =>
    -- The folder in which one works may have the name of a file of settings, so another takes its
    -- place.
    have elsewhere : StaysInLine ["home"] start.names := by
      have named : (["home"] : Position).getLast? ≠ some ownFile := by decide
      have stays := settled { w with folder := ["home"] } (by rw [top]; exact named)
      rwa [top] at stays
    exact elsewhere.of_ne_nil (List.cons_ne_nil _ _) _

/-- The search finds the nearest file of settings, whatever files there are, with those paths that
keep to the line of folders between where they start and where they end, in particular with all
paths without double dots. Where that depends on the folder in which one works, it finds the
nearest file from those folders from which the path keeps to the line. -/
theorem search_is_nearest_iff (start : FilePath) :
    ((∀ w, FindsNearest w start)
        ↔ ∀ w : Workspace, StaysInLine (w.start start.top) start.names)
      ∧ (∀ w : Workspace, StaysInLine (w.start start.top) start.names → FindsNearest w start)
      ∧ (FilePath.above ∉ start.names → ∀ w, FindsNearest w start) := by
  refine ⟨⟨staysInLine_of_findsNearest, fun stays w => findsNearest_of_staysInLine (stays w)⟩,
    fun w => findsNearest_of_staysInLine, fun noAbove w => ?_⟩
  exact findsNearest_of_staysInLine (FilePath.staysInLine_of_not_mem noAbove _)

/-- A folder in which one works, where a folder of it, a folder of that, and it itself may have
settings. -/
def settledFolders (inner middle outer : List (String × FileTree)) : Workspace where
  tree := .folder [("home", .folder (("a", .folder (("b", .folder inner) :: middle)) :: outer))]
  folder := ["home"]

/-- Settings above a folder are found although a folder nearer to it has the name of a file of
settings. -/
theorem settings_above_are_found :
    let w := settledFolders [(ownFile, .folder [])] [(ownFile, .file [])] [(ownFile, .file [])]
    FilePath.above ∉ ["a", "b"] ∧ StaysInLine ["home"] ["a", "..", "a", "b"]
      ∧ search w ⟨none, ["a", "b"]⟩ = some ⟨none, ["a", ownFile]⟩
      ∧ FindsNearest w ⟨none, ["a", "b"]⟩ ∧ FindsNearest w ⟨none, ["a", "..", "a", "b"]⟩ := by
  have noAbove : FilePath.above ∉ ["a", "b"] := by decide
  have stays : StaysInLine ["home"] ["a", "..", "a", "b"] := by decide
  exact ⟨noAbove, stays, by decide, (search_is_nearest_iff ⟨none, ["a", "b"]⟩).2.2 noAbove _,
    (search_is_nearest_iff ⟨none, ["a", "..", "a", "b"]⟩).2.1 _ stays⟩

/-- With a path that leads down and up again the search answers with a file of the folder
between. -/
theorem search_leaves_the_line :
    let w := settledFolders [] [(ownFile, .file [])] []
    search w ⟨none, ["a", ".."]⟩ = some ⟨none, ["a", ownFile]⟩
      ∧ reached ["home"] ["a", ".."] = ["home"]
      ∧ w.look ⟨none, ["a", ownFile]⟩ = .found ["home", "a", ownFile] (.file [])
      ∧ ¬ FindsNearest w ⟨none, ["a", ".."]⟩ := by
  refine ⟨by decide, rfl, rfl, fun nearest => ?_⟩
  obtain ⟨p, content, inLine, looked, -⟩ := nearest
  have here : p = ["home"] := by
    rcases inLine with here | ⟨upper, lower⟩
    · exact here
    · exact (lower.eq_of_length_le upper.length_le).symm
  have place : ["home", "a", ownFile] = p ++ [ownFile] := by injection looked
  rw [here] at place
  exact absurd place (by decide)

end Settings

end PrivilegeCatalog
