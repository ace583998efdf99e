import PrivilegeCatalog.Notice

/-!
# Laws of work that makes remarks

`Logged` is a lawful monad. `Logged.outcome_bind_eq_ok` takes a successful piece of work apart:
both of its halves were successful. The remarks play no part in it. Work is silent when none of
its remarks is a warning; `Logged.warnings_bind` says which warnings two halves give that are both
successful.
-/

namespace PrivilegeCatalog

namespace Logged

variable {ε δ α β : Type}

instance : LawfulMonad (Logged ε) :=
  LawfulMonad.mk' (Logged ε)
    (by
      rintro α ⟨ns, _ | a⟩
      · rfl
      · exact congrArg (Logged.mk · _) (List.append_nil ns))
    (fun _ _ => rfl)
    (by
      rintro α β γ ⟨ns, _ | a⟩ f g
      · rfl
      · simp only [bind_ok]
        rcases hf : f a with ⟨ms, _ | b⟩
        · rfl
        · simp only [bind_ok, List.append_assoc])

/-- A success is the success of both halves. -/
theorem outcome_bind_eq_ok {x : Logged ε α} {f : α → Logged ε β} {b : β} :
    (x >>= f).outcome = .ok b ↔ ∃ a, x.outcome = .ok a ∧ (f a).outcome = .ok b := by
  rcases x with ⟨ns, e | a⟩
  · simp only [bind_error, reduceCtorEq, false_and, exists_false]
  · simp only [bind_ok, Except.ok.injEq, exists_eq_left']

/-- A failure is that of the first half, or that of the second after a success. -/
theorem outcome_bind_eq_error {x : Logged ε α} {f : α → Logged ε β} {e : ε} :
    (x >>= f).outcome = .error e ↔
      x.outcome = .error e ∨ ∃ a, x.outcome = .ok a ∧ (f a).outcome = .error e := by
  rcases x with ⟨ns, e' | a⟩
  · simp only [bind_error, reduceCtorEq, false_and, exists_false, or_false]
    exact ⟨fun failed => congrArg _ (Except.error.inj failed), fun failed =>
      congrArg _ (Except.error.inj failed)⟩
  · simp only [bind_ok, reduceCtorEq, Except.ok.injEq, exists_eq_left', false_or]

/-- A remark before a piece of work does not change its outcome. -/
@[simp] theorem outcome_note_bind (n : Notice) (f : Unit → Logged ε α) :
    (note n >>= f).outcome = (f ()).outcome := rfl

@[simp] theorem outcome_pure (a : α) : (pure a : Logged ε α).outcome = .ok a := rfl

theorem mapError_eq_ok {f : ε → δ} {outcome : Except ε α} {a : α} :
    outcome.mapError f = .ok a ↔ outcome = .ok a := by
  rcases outcome with e | b
  · constructor <;> intro done <;> cases done
  · constructor <;> intro done <;> cases done <;> rfl

@[simp] theorem outcome_mapError_eq_ok {f : ε → δ} {x : Logged ε α} {a : α} :
    (x.mapError f).outcome = .ok a ↔ x.outcome = .ok a := mapError_eq_ok

/-! ## Warnings -/

/-- Work none of whose remarks is a warning. -/
def Silent (work : Logged ε α) : Prop := ∀ n ∈ work.notices, n.isWarning = false

instance (work : Logged ε α) : Decidable work.Silent :=
  inferInstanceAs (Decidable (∀ n ∈ work.notices, n.isWarning = false))

/-- The warnings among the remarks of a piece of work. -/
def warnings (work : Logged ε α) : List Notice := work.notices.filter Notice.isWarning

theorem silent_iff {work : Logged ε α} : work.Silent ↔ work.warnings = [] := by
  rw [Silent, warnings, List.filter_eq_nil_iff]
  simp only [Bool.not_eq_true]

/-- Two silent halves are silent as a whole. -/
theorem Silent.bind {work : Logged ε α} {next : α → Logged ε β} (first : work.Silent)
    (second : ∀ a, (next a).Silent) : (work >>= next).Silent := by
  rcases work with ⟨notices, e | a⟩
  · exact first
  · intro n told
    rcases List.mem_append.mp told with early | late
    · exact first n early
    · exact second a n late

/-- The warnings of the second half come after those of a first half that was successful. -/
theorem warnings_bind {work : Logged ε α} {next : α → Logged ε β} {a : α}
    (done : work.outcome = .ok a) :
    (work >>= next).warnings = work.warnings ++ (next a).warnings := by
  rcases work with ⟨notices, e | a'⟩
  · cases done
  · cases done
    exact List.filter_append ..

end Logged

end PrivilegeCatalog
