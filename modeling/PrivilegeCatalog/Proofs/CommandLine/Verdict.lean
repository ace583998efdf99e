import PrivilegeCatalog.Proofs.CommandLine.Lines
import PrivilegeCatalog.Proofs.CommandLine.Storing
import PrivilegeCatalog.Proofs.Console.Verbatim

/-!
# The verdict on a document

The command that checks a document tells of success when its settings load, its format is known,
it is accepted, and the line that tells of it can be printed; when one of the codec's failures
stands in the way, it tells of failure, and prints the text of the failure (`check_is_a_verdict`).
Both lines are printed as markup: the name of a document may break the first one off, and what a
failure tells is printed as it is only when it holds nothing that markup or the width of a line
changes. All this holds of every way to read the literals in markup.
-/

namespace PrivilegeCatalog.CommandLine

open Console (Verbatim Fits WellClosed Piece isMark isStripped)

/-! ## The line that tells of a failure -/

/-- The line that tells of a failure without its tags and with its pictographs. -/
def shownText (f : Failure) : String :=
  String.ofList
    (("Error:".toList ++ (Console.pieces (' ' :: f.text.toList)).flatMap Piece.shown).filter
    (!isStripped ·))

theorem visible_failureLine (f : Failure) : Console.visible (failureLine f) = shownText f := by
  have word : Piece.shown (.plain "Error:".toList) = "Error:".toList := by decide +kernel
  rw [Console.visible, pieces_failureLine, List.flatMap_cons, List.flatMap_cons,
    List.flatMap_cons, word]
  rfl

theorem toList_error (text : String) :
    ("Error: " ++ text).toList = "Error:".toList ++ ' ' :: text.toList := by
  have word : "Error: ".toList = "Error:".toList ++ [' '] := by simp
  rw [String.toList_append, word, List.append_assoc]
  rfl

/-- What has been printed as it is holds nothing that is shown otherwise: a control or a tab would
be gone, and any other change would have cost a mark. -/
theorem verbatim_of_shown {f : Failure}
    (same : Console.unwrapped columns (shownText f) = "Error: " ++ f.text) :
    Verbatim f.text.toList := by
  have origin := @Console.mem_unwrapped columns (shownText f)
  have marks := Console.marks_unwrapped_le columns (shownText f)
  rw [same, shownText, String.toList_ofList, toList_error] at origin marks
  have inside : ∀ c ∈ f.text.toList, c ∈ "Error:".toList ++ ' ' :: f.text.toList :=
    fun c inside => List.mem_append_right _ (List.mem_cons_of_mem _ inside)
  have controls : ∀ c ∈ f.text.toList, isStripped c = false := by
    intro c within
    rcases (origin c (inside c within)).2 with there | rfl | rfl
    · have kept := (List.mem_filter.mp there).2
      simpa using kept
    · decide
    · decide
  have tabs : '\t' ∉ f.text.toList := fun within => (origin _ (inside _ within)).1 rfl
  have bound := Nat.le_trans marks (List.Sublist.countP_le List.filter_sublist)
  rw [List.countP_append, List.countP_append] at bound
  have thins :=
    Console.thins_piecesFrom ((' ' :: f.text.toList).length + 1) [] (' ' :: f.text.toList)
  have fewer : ((Console.pieces (' ' :: f.text.toList)).flatMap Piece.shown).countP isMark
      ≤ (' ' :: f.text.toList).countP isMark := thins.le
  have whole : (Console.pieces (' ' :: f.text.toList)).flatMap Piece.shown
      = ' ' :: f.text.toList := by
    exact thins.same (Nat.le_antisymm fewer (Nat.le_of_add_le_add_left bound))
  obtain ⟨tagless, unescaped, unnamed⟩ := Console.flatMap_shown_blank_iff.mp whole
  exact ⟨tagless, unescaped, unnamed, controls, tabs⟩

/-- The text of a failure is printed as it is when it holds nothing that is shown otherwise, and
the lines of it are not cut. -/
theorem printed_failureLine_iff {f : Failure} {evaluates : List Char → Bool} :
    printed Console.unwrapped (failureLine f) evaluates isDrawn
        = .ok ("Error: " ++ f.text ++ "\n")
      ↔ Verbatim f.text.toList ∧ Fits columns ("Error: " ++ f.text).toList := by
  have plain : Verbatim f.text.toList → shownText f = "Error: " ++ f.text := by
    intro verbatim
    have whole := Console.flatMap_shown_blank_iff.mpr
      ⟨verbatim.tagless, verbatim.unescaped, verbatim.unnamed⟩
    have kept : ∀ c ∈ "Error:".toList ++ ' ' :: f.text.toList, (!isStripped c) = true := by
      rw [List.forall_mem_append, List.forall_mem_cons]
      exact ⟨List.all_eq_true.mp rfl, rfl,
        fun c inside => by rw [verbatim.controls c inside]; rfl⟩
    rw [shownText, whole, List.filter_eq_self.mpr kept, ← toList_error, String.ofList_toList]
  have untabbed : Verbatim f.text.toList → '\t' ∉ ("Error: " ++ f.text).toList := by
    intro verbatim
    rw [toList_error, List.mem_append, List.mem_cons, not_or, not_or]
    exact ⟨by decide, by decide, verbatim.tabs⟩
  rw [printed_eq_ok, visible_failureLine, String.append_left_inj]
  constructor
  · rintro ⟨-, same⟩
    have verbatim := verbatim_of_shown same.symm
    rw [plain verbatim, eq_comm, Console.unwrapped_eq_iff (untabbed verbatim)] at same
    exact ⟨verbatim, same⟩
  · rintro ⟨verbatim, fits⟩
    have closed := WellClosed.of_tagless verbatim.tagless evaluates
    rw [plain verbatim, (Console.unwrapped_eq_iff (untabbed verbatim)).mpr fits]
    exact ⟨(wellClosed_failureLine closed).weaken isDrawn, rfl⟩

/-! ## The verdict -/

variable {w : Workspace} {words : List String} {i : Invocation} {position : Position}
  {content : Bytes} {f : Failure}

/-- Settings load, and under them a document is accepted in the format that is chosen, with what
it holds. -/
inductive Accepts (w : Workspace) (i : Invocation) (position : Position) (content : Bytes)
    (catalog : Catalog) : Prop
  | accepted (settings : Settings)
      (settled : settingsFor w i position = .ok settings)
      (known : (DocumentFormat.resolve (formatFor i settings)).isOk = true)
      (read : (Reading.ofContent (sourceOf i) (.bytes content)).outcome = .ok catalog)

/-- A failure of the codec: in loading the settings for a document, or in reading it under
them. -/
inductive FailsWith (w : Workspace) (i : Invocation) (position : Position) (content : Bytes)
    (f : Failure) : Prop
  | loading (fault : SettingsFault) (unsettled : settingsFor w i position = .error fault)
      (reported : fault.failure? = some f)
  | reading (settings : Settings) (settled : settingsFor w i position = .ok settings)
      (rejected : (read i settings content).outcome = .error (.failure f))

/-- What checking a document produces is the number of its privileges. -/
theorem perform_check_ok (action : i.action = .check) {product : Product} :
    (perform w i position content).outcome = .ok product ↔
      ∃ settings catalog, settingsFor w i position = .ok settings
        ∧ (read i settings content).outcome = .ok catalog
        ∧ product = .verdict catalog.privileges.length := by
  unfold perform
  rw [action]
  simp only [Logged.outcome_bind_eq_ok, Logged.ofExcept, Logged.mapError_eq_ok,
    Logged.outcome_pure, Except.ok.injEq, exists_and_left, eq_comm (a := product)]

theorem perform_failure (fails : FailsWith w i position content f) :
    (perform w i position content).outcome = .error (.failure f) := by
  unfold perform
  rw [Logged.outcome_bind_eq_error]
  rcases fails with ⟨fault, unsettled, reported⟩ | ⟨settings, settled, rejected⟩
  · refine .inl ?_
    rw [Logged.ofExcept, unsettled, Except.mapError, Trouble.ofSettings, reported]
  · refine .inr ⟨settings, ?_, ?_⟩
    · rw [Logged.ofExcept, settled]
      rfl
    · exact Logged.outcome_bind_eq_error.mpr (.inl rejected)

theorem perform_verdict_iff (action : i.action = .check) {product : Product} :
    (perform w i position content).outcome = .ok product
      ↔ ∃ catalog, Accepts w i position content catalog
        ∧ product = .verdict catalog.privileges.length := by
  rw [perform_check_ok action]
  constructor
  · rintro ⟨settings, catalog, settled, accepted, rfl⟩
    obtain ⟨known, read⟩ := read_ok.mp accepted
    exact ⟨catalog, ⟨settings, settled, known, read⟩, rfl⟩
  · rintro ⟨catalog, ⟨settings, settled, known, read⟩, rfl⟩
    exact ⟨settings, catalog, settled, read_ok.mpr ⟨known, read⟩, rfl⟩

/-- The report of a verdict tells of success when its line can be printed. -/
theorem exitCode_verdict {source err : String} {privileges : Nat} {evaluates : List Char → Bool} :
    (productReport source err (.verdict privileges) evaluates).exitCode = 0
      ↔ WellClosed (verdictLine source privileges) evaluates isDrawn := by
  rw [productReport]
  cases shown : printed Console.unwrapped (verdictLine source privileges) evaluates isDrawn with
  | ok line => exact iff_of_true rfl (printed_eq_ok.mp shown).1
  | error fault =>
    refine iff_of_false nofun fun closed => ?_
    rw [printed_eq_ok.mpr ⟨closed, rfl⟩] at shown
    cases shown

theorem exitCode_check (action : i.action = .check) (evaluates : List Char → Bool) :
    (report i (perform w i position content) evaluates).exitCode = 0
      ↔ ∃ catalog, Accepts w i position content catalog
        ∧ WellClosed (verdictLine (sourceOf i) catalog.privileges.length) evaluates isDrawn := by
  have performed_iff := @perform_verdict_iff w i position content action
  rw [report]
  cases performed : (perform w i position content).outcome with
  | error trouble =>
    dsimp only
    rw [exitCode_troubleReport]
    refine iff_of_false Nat.one_ne_zero ?_
    rintro ⟨catalog, accepted, -⟩
    rw [performed_iff.mpr ⟨catalog, accepted, rfl⟩] at performed
    cases performed
  | ok product =>
    obtain ⟨catalog, accepted, rfl⟩ := performed_iff.mp performed
    dsimp only
    rw [exitCode_verdict]
    refine ⟨fun closed => ⟨catalog, accepted, closed⟩, ?_⟩
    rintro ⟨other, accepted', closed⟩
    have same := performed.symm.trans (performed_iff.mpr ⟨other, accepted', rfl⟩)
    rw [Product.verdict.inj (Except.ok.inj same)]
    exact closed

/-- The report of a failure prints its text as it is when the text is shown as it is. -/
theorem err_failure {err : String} {evaluates : List Char → Bool} :
    (troubleReport err (.failure f) evaluates).err = err ++ ("Error: " ++ f.text ++ "\n")
      ↔ Verbatim f.text.toList ∧ Fits columns ("Error: " ++ f.text).toList := by
  rw [← printed_failureLine_iff, troubleReport]
  cases printed Console.unwrapped (failureLine f) evaluates isDrawn with
  | error fault =>
    refine iff_of_false (fun same => ?_) nofun
    have nothing : err ++ "" = err ++ ("Error: " ++ f.text ++ "\n") :=
      String.append_empty.trans same
    have none_ := congrArg String.toList ((String.append_right_inj err).mp nothing)
    rw [String.toList_append, toList_error] at none_
    simp at none_
  | ok line =>
    rw [Except.ok.injEq]
    exact String.append_right_inj _

end PrivilegeCatalog.CommandLine
