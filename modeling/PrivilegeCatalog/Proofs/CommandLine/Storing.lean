import PrivilegeCatalog.Proofs.CommandLine.Lines
import PrivilegeCatalog.Proofs.CommandLine.Repeating

/-!
# What a command changes

Only the command that formats a document into a file changes files, and it changes that one file
(`files_after_command`). It does so exactly when the document is read under its settings, its
canonical form can be written, and there is a place for the file; the file then holds that form.
That the command tells of success needs one thing more: the line that tells of the file is printed
after the file has been stored, and that line cannot be printed when a tag in the path closes what
is not open.
-/

namespace PrivilegeCatalog.CommandLine

variable {w : Workspace} {words : List String} {i : Invocation} {position place : Position}
  {content bytes : Bytes} {output : String}

/-- A document is read under its settings, these bytes are its canonical form, and a file that is
named for it has a place. -/
inductive Makes (w : Workspace) (i : Invocation) (position : Position) (content : Bytes)
    (output : String) (place : Position) (bytes : Bytes) : Prop
  | made (settings : Settings) (catalog : Catalog)
      (settled : settingsFor w i position = .ok settings)
      (accepted : (read i settings content).outcome = .ok catalog)
      (formatted : (Formatting.format settings catalog).outcome = .ok bytes)
      (target : w.target (FilePath.ofText output) = .ok place)

/-! ## What is stored -/

/-- A command that produces something has settings for its document. -/
theorem exists_settings {product : Product}
    (performed : (perform w i position content).outcome = .ok product) :
    ∃ settings, settingsFor w i position = .ok settings := by
  obtain ⟨settings, settled, -⟩ := Logged.outcome_bind_eq_ok.mp performed
  exact ⟨settings, Logged.mapError_eq_ok.mp settled⟩

/-- What is produced when a document is formatted into a file. -/
theorem perform_store_ok (action : i.action = .format (some output)) {product : Product} :
    (perform w i position content).outcome = .ok product ↔
      ∃ settings catalog bytes place, settingsFor w i position = .ok settings
        ∧ (read i settings content).outcome = .ok catalog
        ∧ (Formatting.format settings catalog).outcome = .ok bytes
        ∧ w.target (FilePath.ofText output) = .ok place
        ∧ product = .stored place bytes catalog.privileges.length (FilePath.ofText output) := by
  constructor
  · intro performed
    obtain ⟨settings, settled⟩ := exists_settings performed
    obtain ⟨catalog, accepted, bytes, place, formatted, target, rfl⟩ :=
      (perform_format_ok action settled).mp performed
    exact ⟨settings, catalog, bytes, place, settled, accepted, formatted, target, rfl⟩
  · rintro ⟨settings, catalog, bytes, place, settled, accepted, formatted, target, rfl⟩
    exact (perform_format_ok action settled).mpr
      ⟨catalog, accepted, bytes, place, formatted, target, rfl⟩

theorem stored_troubleReport (err : String) (trouble : Trouble) :
    (troubleReport err trouble).stored = none := by
  unfold troubleReport
  split
  · rfl
  · split <;> rfl

theorem stored_productReport {source err : String} {product : Product}
    (stored : (productReport source err product).stored = some (place, bytes)) :
    ∃ privileges path, product = .stored place bytes privileges path := by
  cases product with
  | stored place' bytes' privileges path =>
    rw [productReport_stored.2] at stored
    cases stored
    exact ⟨privileges, path, rfl⟩
  | verdict privileges =>
    dsimp only [productReport] at stored
    split at stored
    · cases stored
    · cases stored
  | tables tables =>
    dsimp only [productReport] at stored
    split at stored
    · cases stored
    · cases stored
  | text document => cases stored

/-- A file is stored only as the product of a command. -/
theorem stored_report {work : Work Product}
    (stored : (report i work).stored = some (place, bytes)) :
    ∃ privileges path, work.outcome = .ok (.stored place bytes privileges path) := by
  rw [report] at stored
  cases made : work.outcome with
  | error trouble =>
    rw [made] at stored
    dsimp only at stored
    rw [stored_troubleReport] at stored
    cases stored
  | ok product =>
    rw [made] at stored
    obtain ⟨privileges, path, rfl⟩ := stored_productReport stored
    exact ⟨privileges, path, rfl⟩

/-- A command that is not to format into a file produces no file. -/
theorem not_stored (action : ∀ output, i.action ≠ .format (some output)) {privileges : Nat}
    {path : FilePath} :
    (perform w i position content).outcome ≠ .ok (.stored place bytes privileges path) := by
  intro performed
  obtain ⟨settings, settled⟩ := exists_settings performed
  obtain ⟨settings', -, performed⟩ := Logged.outcome_bind_eq_ok.mp performed
  obtain ⟨catalog, -, performed⟩ := Logged.outcome_bind_eq_ok.mp performed
  split at performed
  case h_1 => cases performed
  case h_2 =>
    obtain ⟨table, -, performed⟩ := Logged.outcome_bind_eq_ok.mp performed
    cases performed
  case h_3 =>
    obtain ⟨text, -, performed⟩ := Logged.outcome_bind_eq_ok.mp performed
    cases performed
  case h_4 output asked => exact action output asked

theorem run_of_found (asked : Request.ofWords words = .run i)
    (found : w.lookText i.document = .found position (.file content))
    (evaluates : List Char → Bool) :
    run w words evaluates = report i (perform w i position content) evaluates := by
  rw [run, asked]
  dsimp only
  rw [runInvocation, found]

/-- A file is stored exactly when it is made. -/
theorem stored_iff (action : i.action = .format (some output)) :
    (report i (perform w i position content)).stored = some (place, bytes)
      ↔ Makes w i position content output place bytes := by
  constructor
  · intro stored
    obtain ⟨privileges, path, performed⟩ := stored_report stored
    obtain ⟨settings, catalog, bytes', place', settled, accepted, formatted, target, same⟩ :=
      (perform_store_ok action).mp performed
    cases same
    exact ⟨settings, catalog, settled, accepted, formatted, target⟩
  · rintro ⟨settings, catalog, settled, accepted, formatted, target⟩
    have performed := (perform_store_ok action).mpr
      ⟨settings, catalog, bytes, place, settled, accepted, formatted, target, rfl⟩
    rw [report, performed]
    exact productReport_stored.2

/-- The command tells of success when a file is made and its path can be printed. -/
theorem succeeds_iff (action : i.action = .format (some output)) :
    (report i (perform w i position content)).exitCode = 0 ↔
      (∃ place bytes, Makes w i position content output place bytes)
        ∧ Console.WellClosed (FilePath.ofText output).text := by
  cases performed : (perform w i position content).outcome with
  | error trouble =>
    have failed : (report i (perform w i position content)).exitCode = 1 := by
      rw [report, performed]
      exact exitCode_troubleReport _ trouble _
    rw [failed]
    refine ⟨nofun, ?_⟩
    rintro ⟨⟨place, bytes, settings, catalog, settled, accepted, formatted, target⟩, -⟩
    have done := (perform_store_ok action).mpr
      ⟨settings, catalog, bytes, place, settled, accepted, formatted, target, rfl⟩
    rw [performed] at done
    cases done
  | ok product =>
    obtain ⟨settings, catalog, bytes, place, settled, accepted, formatted, target, rfl⟩ :=
      (perform_store_ok action).mp performed
    rw [report, performed]
    dsimp only
    rw [productReport_stored.1, Console.shown_isOk, wellClosed_storedLine]
    exact ⟨fun closed => ⟨⟨place, bytes, settings, catalog, settled, accepted, formatted, target⟩,
      closed⟩, And.right⟩

/-- A command whose document is there changes a file only when it is to format the document into
that file. It does so exactly when the file is made; the file then holds what was made, and no
other file is changed. The command tells of success when, besides, the path of the file can be
printed. -/
theorem files_after_command (w : Workspace) (words : List String) (i : Invocation)
    (position : Position) (content : Bytes) (asked : Request.ofWords words = .run i)
    (found : w.lookText i.document = .found position (.file content)) :
    let r := run w words
    ((∀ output, i.action ≠ .format (some output)) → r.leaves w = w)
      ∧ ∀ output, i.action = .format (some output) →
        (r.exitCode = 0 ↔ (∃ place bytes, Makes w i position content output place bytes)
            ∧ Console.WellClosed (FilePath.ofText output).text)
          ∧ ((∀ place bytes, ¬Makes w i position content output place bytes) → r.leaves w = w)
          ∧ ∀ place bytes, Makes w i position content output place bytes →
            ∀ q, (r.leaves w).file? q = if q = place then some bytes else w.file? q := by
  intro r
  have ran : r = report i (perform w i position content) := run_of_found asked found _
  rw [ran]
  refine ⟨fun action => ?_, fun output action => ⟨succeeds_iff action, fun unmade => ?_, ?_⟩⟩
  · unfold Report.leaves
    split
    case h_1 place bytes stored =>
      obtain ⟨privileges, path, performed⟩ := stored_report stored
      exact absurd performed (not_stored action)
    case h_2 => rfl
  · unfold Report.leaves
    split
    case h_1 place bytes stored =>
      exact absurd ((stored_iff action).mp stored) (unmade place bytes)
    case h_2 => rfl
  · intro place bytes made q
    have target : w.target (FilePath.ofText output) = .ok place := by
      obtain ⟨settings, catalog, -, -, -, target⟩ := made
      exact target
    rw [Report.leaves_of_stored ((stored_iff action).mpr made)]
    exact Workspace.file?_store target bytes q

/-- A document is formatted into a new file beside it. -/
theorem new_file_after_command :
    let content := contentOf "<privileges/>"
    let w : Workspace := ⟨.folder [("a.xml", .file content)], [], "/"⟩
    let words := ["format", "a.xml", "--output", "b.xml"]
    let i : Invocation := { action := .format (some "b.xml"), document := "a.xml" }
    let r := run w words
    Request.ofWords words = .run i ∧ w.lookText i.document = .found ["a.xml"] (.file content)
      ∧ ((∀ output, i.action ≠ .format (some output)) → r.leaves w = w)
      ∧ ∀ output, i.action = .format (some output) →
        (r.exitCode = 0 ↔ (∃ place bytes, Makes w i ["a.xml"] content output place bytes)
            ∧ Console.WellClosed (FilePath.ofText output).text)
          ∧ ((∀ place bytes, ¬Makes w i ["a.xml"] content output place bytes) → r.leaves w = w)
          ∧ ∀ place bytes, Makes w i ["a.xml"] content output place bytes →
            ∀ q, (r.leaves w).file? q = if q = place then some bytes else w.file? q := by
  intro content w words i r
  have asked : Request.ofWords words = .run i := by decide +kernel
  have found : w.lookText "a.xml" = .found ["a.xml"] (.file content) := by rfl
  exact ⟨asked, found, files_after_command w words i ["a.xml"] content asked found⟩

/-- A file has been stored, and the command fails, since the end of the path is taken for a tag
that closes what is not open. -/
theorem failed_command_changes_a_file :
    let w : Workspace :=
      ⟨.folder [("a.xml", .file (contentOf "<privileges/>")), ("[", .folder [])], [], "/"⟩
    let r := run w ["format", "a.xml", "--output", "[/b].xml"]
    r.exitCode = 1 ∧ w.file? ["[", "b].xml"] = none
      ∧ (r.leaves w).file? ["[", "b].xml"]
        = some (contentOf "<?xml version='1.0' encoding='UTF-8'?>\n<privileges/>\n") := by
  intro w r
  refine ⟨?_, ?_, ?_⟩
  · decide +kernel
  · decide +kernel
  · decide +kernel

end PrivilegeCatalog.CommandLine
