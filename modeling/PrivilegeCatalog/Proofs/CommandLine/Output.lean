import PrivilegeCatalog.CommandLine.Running
import PrivilegeCatalog.Proofs.Formatting.Meaning
import PrivilegeCatalog.Proofs.Reader.Reports

/-!
# What a command hands out

A command that formats a document succeeds when the document is read, its canonical form can be
written, and there is a place for it; then it hands out that form, as text or as a stored file
(`format_succeeds_iff`).
-/

namespace PrivilegeCatalog.CommandLine

open Writing (IsUtf8)

/-- Words that ask for a document to be formatted, what is found of it, and what is settled for
it. -/
structure Asks (w : Workspace) (words : List String) (i : Invocation) (output : Option String)
    (position : Position) (content : Bytes) (settings : Settings) : Prop where
  asked : Request.ofWords words = .run i
  action : i.action = .format output
  found : w.lookText i.document = .found position (.file content)
  settled : settingsFor w i position = .ok settings

/-- The document that a report hands out: what is stored, or else what is printed. -/
def Report.emitted (r : Report) : Bytes :=
  match r.stored with
  | some (_, content) => content
  | none => Encoding.utf8.encode r.out.toList

/-- The content of a file with a text. -/
def contentOf (text : String) : Bytes := Encoding.utf8.encode text.toList

/-- The form of a document with so many privileges can be handed out: a file for it has a place,
and the line that tells of the file can be printed. -/
def CanHandOut (w : Workspace) (output : Option String) (privileges : Nat) : Prop :=
  ∀ path ∈ output, (w.target (FilePath.ofText path)).isOk = true
    ∧ (Console.shown (storedLine privileges (FilePath.ofText path))).isOk = true

variable {w : Workspace} {words : List String} {i : Invocation} {settings : Settings}
  {position : Position} {content bytes : Bytes} {catalog : Catalog} {output : Option String}

theorem Asks.run_eq (asks : Asks w words i output position content settings) :
    run w words = runInvocation w i := by
  rw [run, asks.asked]

/-! ## Reading -/

/-- A document is read when there is a format of the given name and the document is accepted. -/
theorem read_ok :
    (read i settings content).outcome = .ok catalog ↔
      (DocumentFormat.resolve (formatFor i settings)).isOk = true
        ∧ (Reading.ofContent (sourceOf i) (.bytes content)).outcome = .ok catalog := by
  unfold read Reader.ofContent
  cases DocumentFormat.resolve (formatFor i settings) with
  | error fault => exact ⟨nofun, fun given => (Bool.false_ne_true given.1).elim⟩
  | ok format =>
    change ((Reader.catalog ⟨format, _, .bytes content, 0, .nothing⟩).answer.mapError _)
      = .ok catalog ↔ _
    rw [Logged.mapError_eq_ok, Reader.catalog_answer_of_nothing rfl]
    exact ⟨fun done => ⟨rfl, Reading.read_under _ done⟩,
      fun given => Reading.read_under _ given.2⟩

/-! ## Formatting -/

/-- What formatting makes of a catalog: a text, or bytes for the file that is named. -/
def Produces (w : Workspace) (settings : Settings) (catalog : Catalog) :
    Option String → Product → Prop
  | none, product => ∃ text, (Formatting.formatText settings catalog).outcome = .ok text
      ∧ .text text = product
  | some path, product => ∃ bytes place, (Formatting.format settings catalog).outcome = .ok bytes
      ∧ w.target (FilePath.ofText path) = .ok place
      ∧ .stored place bytes catalog.privileges.length (FilePath.ofText path) = product

theorem perform_format_ok (action : i.action = .format output)
    (settled : settingsFor w i position = .ok settings) {product : Product} :
    (perform w i position content).outcome = .ok product ↔
      ∃ catalog, (read i settings content).outcome = .ok catalog
        ∧ Produces w settings catalog output product := by
  have given : (Logged.ofExcept ((settingsFor w i position).mapError Trouble.ofSettings)
      : Work Settings) = pure settings := by
    rw [settled]
    rfl
  unfold perform
  rw [given, action, pure_bind, Logged.outcome_bind_eq_ok]
  refine exists_congr fun catalog => and_congr_right fun _ => ?_
  cases output with
  | none =>
    simp only [Produces, Logged.outcome_bind_eq_ok, Logged.outcome_mapError_eq_ok,
      Logged.outcome_pure, Except.ok.injEq]
  | some path =>
    simp only [Produces, Logged.outcome_bind_eq_ok, Logged.outcome_mapError_eq_ok,
      Logged.outcome_pure, Logged.ofExcept, Logged.mapError_eq_ok, Except.ok.injEq,
      exists_and_left]

/-! ## Reports -/

theorem exitCode_troubleReport (err : String) (trouble : Trouble)
    (evaluates : List Char → Bool) : (troubleReport err trouble evaluates).exitCode = 1 := by
  unfold troubleReport
  split
  · rfl
  · split <;> rfl

/-- The report of a stored file tells of success when its line can be printed. -/
theorem productReport_stored {source err : String} {place : Position} {privileges : Nat}
    {path : FilePath} :
    let r := productReport source err (.stored place bytes privileges path)
    (r.exitCode = 0 ↔ (Console.shown (storedLine privileges path)).isOk = true)
      ∧ r.stored = some (place, bytes) := by
  intro r
  dsimp only [r, productReport, printed]
  cases Console.shown (storedLine privileges path) with
  | error fault => exact ⟨⟨nofun, nofun⟩, rfl⟩
  | ok shown => exact ⟨⟨fun _ => rfl, fun _ => rfl⟩, rfl⟩

theorem Report.emitted_of_stored {r : Report} {place : Position}
    (stored : r.stored = some (place, bytes)) : r.emitted = bytes := by
  rw [emitted, stored]

/-- Formatting hands out a document when the product for it does. -/
theorem report_produces {source err : String} (utf8 : IsUtf8 settings.layout) :
    (∃ product, Produces w settings catalog output product
        ∧ (productReport source err product).exitCode = 0
        ∧ (productReport source err product).emitted = bytes) ↔
      (Formatting.format settings catalog).outcome = .ok bytes
        ∧ CanHandOut w output catalog.privileges.length := by
  cases output with
  | none =>
    constructor
    · intro produced
      rcases produced with ⟨_, ⟨text, formatted, rfl⟩, -, same⟩
      rw [← same]
      exact ⟨(Formatting.formatText_ok utf8).mp formatted, nofun⟩
    · intro given
      obtain ⟨formatted, -⟩ := given
      obtain ⟨text, same⟩ := Formatting.exists_text utf8 formatted
      rw [same] at formatted
      exact ⟨_, ⟨text, (Formatting.formatText_ok utf8).mpr formatted, rfl⟩, rfl, same.symm⟩
  | some path =>
    constructor
    · intro produced
      rcases produced with ⟨_, ⟨bytes', place, formatted, target, rfl⟩, succeeded, same⟩
      rw [Report.emitted_of_stored productReport_stored.2] at same
      rw [← same]
      refine ⟨formatted, fun other inside => ?_⟩
      rw [← Option.some.inj inside, target]
      exact ⟨rfl, productReport_stored.1.mp succeeded⟩
    · intro given
      obtain ⟨formatted, handsOut⟩ := given
      obtain ⟨placed, shown⟩ := handsOut path rfl
      cases target : w.target (FilePath.ofText path) with
      | error fault =>
        rw [target] at placed
        cases placed
      | ok place =>
        refine ⟨_, ⟨bytes, place, formatted, target, rfl⟩, ?_,
          Report.emitted_of_stored productReport_stored.2⟩
        exact productReport_stored.1.mpr shown

/-- A command that formats succeeds and hands out a document when its own is read, that is its
canonical form, and the form can be handed out. -/
theorem format_succeeds_iff (asks : Asks w words i output position content settings)
    (utf8 : IsUtf8 settings.layout) :
    (run w words).exitCode = 0 ∧ (run w words).emitted = bytes ↔
      ∃ catalog, (read i settings content).outcome = .ok catalog
        ∧ (Formatting.format settings catalog).outcome = .ok bytes
        ∧ CanHandOut w output catalog.privileges.length := by
  have produced :=
    @perform_format_ok w i settings position content output asks.action asks.settled
  rw [asks.run_eq, runInvocation, asks.found]
  dsimp only
  unfold report
  cases outcome : (perform w i position content).outcome with
  | error trouble =>
    rw [outcome] at produced
    dsimp only
    rw [exitCode_troubleReport]
    refine ⟨fun given => absurd given.1 Nat.one_ne_zero, fun given => ?_⟩
    obtain ⟨catalog, accepted, handed⟩ := given
    obtain ⟨product, made, -⟩ :=
      (@report_produces w settings _ catalog output "" "" utf8).mpr handed
    exact absurd (produced.mpr ⟨catalog, accepted, made⟩) nofun
  | ok product =>
    rw [outcome] at produced
    dsimp only
    constructor
    · intro given
      obtain ⟨catalog, accepted, made⟩ := produced.mp rfl
      exact ⟨catalog, accepted, (report_produces utf8).mp ⟨product, made, given⟩⟩
    · intro given
      obtain ⟨catalog, accepted, handed⟩ := given
      obtain ⟨product', made, told⟩ := (report_produces utf8).mpr handed
      have same := Except.ok.inj (produced.mpr ⟨catalog, accepted, made⟩)
      rw [same]
      exact told

/-- A command that formats with success has read its document and handed out the canonical
form. -/
theorem exists_formatted (asks : Asks w words i output position content settings)
    (utf8 : IsUtf8 settings.layout) (succeeded : (run w words).exitCode = 0) :
    ∃ catalog, (DocumentFormat.resolve (formatFor i settings)).isOk = true
      ∧ (Reading.ofContent (sourceOf i) (.bytes content)).outcome = .ok catalog
      ∧ Formatting.Formatted settings catalog (run w words).emitted
      ∧ CanHandOut w output catalog.privileges.length := by
  obtain ⟨catalog, accepted, formatted, handsOut⟩ :=
    (format_succeeds_iff asks utf8).mp ⟨succeeded, rfl⟩
  obtain ⟨known, read⟩ := read_ok.mp accepted
  exact ⟨catalog, known, read, Formatting.formatted_of_read read utf8 formatted, handsOut⟩

/-- A command that formats into a file with success stores there what it hands out. -/
theorem stored_of_format {path : String} {place : Position}
    (asks : Asks w words i (some path) position content settings)
    (target : w.target (FilePath.ofText path) = .ok place)
    (succeeded : (run w words).exitCode = 0) :
    (run w words).stored = some (place, (run w words).emitted) := by
  have produced := @perform_format_ok w i settings position content _ asks.action asks.settled
  rw [asks.run_eq, runInvocation, asks.found] at succeeded ⊢
  dsimp only at succeeded ⊢
  unfold report at succeeded ⊢
  cases outcome : (perform w i position content).outcome with
  | error trouble =>
    rw [outcome] at succeeded
    dsimp only at succeeded
    rw [exitCode_troubleReport] at succeeded
    exact absurd succeeded Nat.one_ne_zero
  | ok product =>
    rw [outcome] at produced
    obtain ⟨catalog, -, bytes, place', -, target', rfl⟩ := produced.mp rfl
    dsimp only
    rw [target] at target'
    have stored := @productReport_stored bytes (sourceOf i)
      (log i.verbose (perform w i position content).notices) place' catalog.privileges.length
      (FilePath.ofText path)
    rw [stored.2, Report.emitted_of_stored stored.2, Except.ok.inj target']

end PrivilegeCatalog.CommandLine
