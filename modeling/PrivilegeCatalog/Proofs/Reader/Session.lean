import PrivilegeCatalog.Proofs.NamespaceTable.Changes
import PrivilegeCatalog.Proofs.Reader.Reports

/-!
# Sessions with a reader

All that a caller does with one reader, as data: questions, and commands to the table that the
reader hands out, in any order. `Reader.after` is the reader after some uses, and `Reader.seen`
what came of them.

A reader is settled when no use changes it and all questions are answered from one outcome. A
reader that keeps a rejection is settled, and so is one that keeps a catalog with a frozen table;
before that it idles until its first question (`idle_or_asked`).
-/

namespace PrivilegeCatalog.Reader

/-! ## Uses -/

/-- What a reader is asked for. -/
inductive Question
  | privileges
  | namespaces
  deriving DecidableEq, Repr

/-- What a reader answers with. -/
inductive Part
  | privileges (privileges : List Privilege)
  | namespaces (table : NamespaceTable)
  deriving DecidableEq

/-- The part of a catalog that is asked for. -/
def Question.part : Question → Catalog → Part
  | .privileges, catalog => .privileges catalog.privileges
  | .namespaces, catalog => .namespaces catalog.namespaces

/-- The same access with its answer seen in another way. -/
def Access.map {α β : Type} (f : α → β) (access : Access α) : Access β :=
  ⟨access.reader, access.notices, access.answer.map f⟩

/-- Asks a reader. -/
def ask (r : Reader) : Question → Access Part
  | .privileges => r.privileges.map .privileges
  | .namespaces => r.namespaces.map .namespaces

/-- What a caller does: a question to the reader, or a command to its table. -/
inductive Use
  | ask (q : Question)
  | command (c : NamespaceTable.Command)
  deriving DecidableEq, Repr

/-- What a caller sees. There is no table before a document has been read. -/
inductive Sight
  | answer (q : Question) (answer : Except ReadFault Part)
  | reply (answer : Except ExpansionFault NamespaceTable.Answer)
  | noTable
  deriving DecidableEq

/-- The reader after a use. -/
def next (r : Reader) : Use → Reader
  | .ask q => (r.ask q).reader
  | .command c =>
    match r.memory with
    | .read catalog => r.withTable (catalog.namespaces.run c).table
    | _ => r

/-- What comes of a use. -/
def sight (r : Reader) : Use → Sight
  | .ask q => .answer q (r.ask q).answer
  | .command c =>
    match r.memory with
    | .read catalog => .reply (catalog.namespaces.run c).answer
    | _ => .noTable

/-- The reader after some uses. -/
def after (r : Reader) (uses : List Use) : Reader := uses.foldl next r

/-- What comes of some uses, one after another. -/
def seen (r : Reader) : List Use → List Sight
  | [] => []
  | u :: rest => r.sight u :: (r.next u).seen rest

variable {r : Reader} {reason : Rejection} {catalog : Catalog} {q : Question}

theorem after_cons (u : Use) (uses : List Use) : r.after (u :: uses) = (r.next u).after uses :=
  rfl

theorem mem_seen_cons {u : Use} {uses : List Use} {sight : Sight} :
    sight ∈ r.seen (u :: uses) ↔ sight = r.sight u ∨ sight ∈ (r.next u).seen uses := List.mem_cons

/-! ## Questions -/

theorem ask_reader (r : Reader) (q : Question) : (r.ask q).reader = r.catalog.reader := by
  cases q <;> rfl

/-- All questions are answered from one outcome. -/
theorem ask_answer (r : Reader) (q : Question) :
    (r.ask q).answer = r.catalog.answer.map q.part := by
  cases q <;> simp only [ask, Access.map, privileges, namespaces] <;>
    cases r.catalog.answer <;> rfl

/-- The outcome of reading what the source still gives. -/
def outcome (r : Reader) : Except ReadFault Catalog :=
  (Reading.ofContent r.source r.content).outcome

/-- The reader after one more reading. -/
def kept (r : Reader) (memory : Memory) : Reader :=
  { r with content := exhausted r.content, reads := r.reads + 1, memory }

theorem catalog_of_rejected (known : r.memory = .rejected reason) :
    r.catalog.reader = r ∧ r.catalog.answer = .error (.rejected reason) := by
  simp [Reader.catalog, known]

theorem catalog_of_read (known : r.memory = .read catalog) :
    r.catalog.reader = r ∧ r.catalog.answer = .ok catalog := by
  simp [Reader.catalog, known]

/-- A reader that has kept nothing reads its source. A catalog or a rejection is then kept, but
not that a local name was missed. -/
theorem catalog_of_nothing (nothing : r.memory = .nothing) :
    r.catalog.answer = r.outcome
      ∧ r.catalog.reader = r.kept (match r.outcome with
        | .ok catalog => .read catalog
        | .error (.rejected reason) => .rejected reason
        | .error (.badTagName _) => .nothing) := by
  refine ⟨catalog_answer_of_nothing nothing, ?_⟩
  unfold Reader.catalog
  split
  case h_1 known => cases nothing.symm.trans known
  case h_2 known => cases nothing.symm.trans known
  case h_3 => rfl

/-- A source at its end is rejected as empty. -/
theorem outcome_exhausted (memory : Memory) :
    (r.kept memory).outcome = .error (.rejected .empty) := by
  rw [outcome, kept, Reading.ofContent, if_pos (isEmpty_exhausted r.content)]
  rfl

/-- What is kept is what was answered. -/
theorem memory_catalog :
    r.catalog.reader.memory = .read catalog ↔ r.catalog.answer = .ok catalog := by
  cases memory : r.memory with
  | nothing =>
    obtain ⟨answer, reader⟩ := catalog_of_nothing memory
    rw [answer, reader, kept]
    cases r.outcome with
    | ok catalog => simp
    | error fault => cases fault <;> simp
  | rejected reason =>
    obtain ⟨reader, answer⟩ := catalog_of_rejected memory
    rw [answer, reader, memory]
    simp
  | read catalog =>
    obtain ⟨reader, answer⟩ := catalog_of_read memory
    rw [answer, reader, memory]
    simp

/-- A command through the reader is a question for the namespaces and then the command. -/
theorem command_reader (r : Reader) (c : NamespaceTable.Command) :
    (r.command c).reader = r.after [.ask .namespaces, .command c] := by
  have asked : r.after [.ask .namespaces, .command c] = r.catalog.reader.next (.command c) := rfl
  rw [asked, command, namespaces, next]
  cases answer : r.catalog.answer with
  | ok catalog =>
    rw [memory_catalog.mpr answer]
    rfl
  | error fault =>
    have none : ∀ catalog, r.catalog.reader.memory ≠ .read catalog := by
      intro catalog found
      rw [memory_catalog, answer] at found
      cases found
    cases memory : r.catalog.reader.memory with
    | read catalog => exact (none catalog memory).elim
    | nothing => rfl
    | rejected reason => rfl

/-! ## Settled readers -/

/-- No use changes the reader, and every question is answered from the outcome. -/
def Settled (r : Reader) (outcome : Except ReadFault Catalog) : Prop :=
  ∀ u, r.next u = r ∧ ∀ q answer, r.sight u = .answer q answer → answer = outcome.map q.part

/-- A reader that neither a question nor a command changes answers from one outcome. -/
theorem settled_of_unchanged (asked : r.catalog.reader = r)
    (commanded : ∀ c, r.next (.command c) = r) : r.Settled r.catalog.answer := by
  intro u
  cases u with
  | ask q =>
    refine ⟨(ask_reader r q).trans asked, fun q' answer told => ?_⟩
    rw [sight, ask_answer] at told
    cases told
    rfl
  | command c =>
    refine ⟨commanded c, fun q answer told => ?_⟩
    cases known : r.memory <;> rw [sight, known] at told <;> cases told

theorem settled_of_rejected (known : r.memory = .rejected reason) :
    r.Settled (.error (.rejected reason)) := by
  obtain ⟨asked, answer⟩ := catalog_of_rejected known
  rw [← answer]
  exact settled_of_unchanged asked fun c => by rw [next, known]

/-- The table is frozen, so no command to it changes what the reader keeps. -/
theorem settled_of_read (known : r.memory = .read catalog)
    (frozen : catalog.namespaces.frozen = true) : r.Settled (.ok catalog) := by
  obtain ⟨asked, answer⟩ := catalog_of_read known
  rw [← answer]
  refine settled_of_unchanged asked fun c => ?_
  simp only [next, known, NamespaceTable.run_table_of_frozen frozen c, withTable]
  rw [← known]

namespace Settled

variable {outcome : Except ReadFault Catalog}

theorem after (h : r.Settled outcome) (uses : List Use) : r.after uses = r := by
  induction uses with
  | nil => rfl
  | cons u rest ih => rw [after_cons, (h u).1, ih]

theorem seen (h : r.Settled outcome) {uses : List Use} {answer : Except ReadFault Part}
    (told : .answer q answer ∈ r.seen uses) : answer = outcome.map q.part := by
  induction uses with
  | nil => cases told
  | cons u rest ih =>
    rw [mem_seen_cons, (h u).1] at told
    rcases told with told | told
    · exact (h u).2 q answer told.symm
    · exact ih told

end Settled

/-! ## The first question -/

/-- A reader that has kept nothing is not asked at all, or idles until it is. -/
theorem idle_or_asked (nothing : r.memory = .nothing) (uses : List Use) :
    (r.after uses = r ∧ ∀ q answer, .answer q answer ∉ r.seen uses)
      ∨ ∃ first rest, r.after uses = (r.ask first).reader.after rest
          ∧ ∀ q answer, .answer q answer ∈ r.seen uses ↔
            .answer q answer = r.sight (.ask first)
              ∨ .answer q answer ∈ (r.ask first).reader.seen rest := by
  induction uses with
  | nil => exact .inl ⟨rfl, fun _ _ => List.not_mem_nil⟩
  | cons u rest ih =>
    cases u with
    | ask first => exact .inr ⟨first, rest, rfl, fun q answer => mem_seen_cons⟩
    | command c =>
      have idle : r.next (.command c) = r := by rw [next, nothing]
      have unseen : r.sight (.command c) = .noTable := by rw [sight, nothing]
      simp only [after_cons, mem_seen_cons, idle, unseen, reduceCtorEq, false_or]
      exact ih

end PrivilegeCatalog.Reader
