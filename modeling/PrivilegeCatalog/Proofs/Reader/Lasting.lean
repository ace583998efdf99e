import PrivilegeCatalog.Proofs.Reader.Session

/-!
# What lasts in a session

A reader of some content is asked questions, and its table is given commands, in any order.
Answers and failures never mix, and answers are all taken from one catalog (`answers_never_mix`).
A failure lasts, unless the first question misses a local name: that is forgotten, and all later
questions find the source empty (`failures_last_iff`).
-/

namespace PrivilegeCatalog.Reader

variable {r : Reader} {q first : Question} {catalog : Catalog} {text : String}
  {answer : Except ReadFault Part} {uses : List Use}

/-! ## The first question -/

/-- A reader as it is made has kept nothing and not read its source. -/
theorem fresh_of_made {identifier : String} {source : Option String} {stream : Option Value}
    {content : Xml.Content} (made : Reader.ofContent identifier source stream content = .ok r) :
    r.memory = .nothing ∧ r.reads = 0 ∧ r.content = content := by
  unfold Reader.ofContent at made
  cases resolved : DocumentFormat.resolve identifier with
  | error unsupported =>
    rw [resolved] at made
    cases made
  | ok format =>
    rw [resolved] at made
    cases made
    exact ⟨rfl, rfl, rfl⟩

/-- The table of a document that was read is frozen. -/
theorem frozen_of_outcome (read : r.outcome = .ok catalog) :
    catalog.namespaces.frozen = true := by
  obtain ⟨root, -, -, denotes⟩ := Reading.exists_root_of_read read
  rw [denotes.namespaces]
  rfl

theorem missesName_iff (nothing : r.memory = .nothing) :
    r.MissesName ↔ ∃ text, r.outcome = .error (.badTagName text) := by
  rw [← (catalog_of_nothing nothing).1]
  simp only [catalog_nameless, exists_and_left]
  rfl

/-- The first question settles a reader whose document misses no local name. -/
theorem settled_of_asked (nothing : r.memory = .nothing) (named : ¬ r.MissesName) :
    ∃ memory, (r.ask q).reader = r.kept memory ∧ (r.kept memory).Settled r.outcome
      ∧ ∀ catalog, r.outcome = .ok catalog → memory = .read catalog := by
  have reader := (ask_reader r q).trans (catalog_of_nothing nothing).2
  rw [missesName_iff nothing] at named
  cases told : r.outcome with
  | ok catalog =>
    rw [told] at reader
    exact ⟨_, reader, settled_of_read rfl (frozen_of_outcome told),
      fun _ same => by cases same; rfl⟩
  | error fault =>
    cases fault with
    | rejected reason =>
      rw [told] at reader
      exact ⟨_, reader, settled_of_rejected rfl, nofun⟩
    | badTagName text => exact (named ⟨text, told⟩).elim

/-- A local name that was missed is not kept. -/
theorem forgotten_of_asked (nothing : r.memory = .nothing)
    (missed : r.outcome = .error (.badTagName text)) : (r.ask q).reader = r.kept .nothing := by
  rw [ask_reader, (catalog_of_nothing nothing).2, missed]

/-! ## Whole sessions -/

/-- A reader whose document misses no local name reads at most once, and all that it says is taken
from the outcome of that. -/
theorem session_of_named (nothing : r.memory = .nothing) (named : ¬ r.MissesName)
    (uses : List Use) : (r.after uses = r ∧ ∀ q answer, .answer q answer ∉ r.seen uses)
      ∨ (∃ memory, r.after uses = r.kept memory
          ∧ ∀ catalog, r.outcome = .ok catalog → memory = .read catalog)
        ∧ ∀ q answer, .answer q answer ∈ r.seen uses → answer = r.outcome.map q.part := by
  rcases idle_or_asked nothing uses with idle | ⟨first, rest, after, seen⟩
  · exact .inl idle
  · obtain ⟨memory, reader, settled, known⟩ := settled_of_asked (q := first) nothing named
    rw [reader] at after seen
    rw [settled.after] at after
    refine .inr ⟨⟨memory, after, known⟩, fun q answer told => ?_⟩
    rcases (seen q answer).mp told with told | told
    · rw [sight, ask_answer, (catalog_of_nothing nothing).1] at told
      cases told
      rfl
    · exact settled.seen told

/-- A reader that has missed a local name finds its source empty at the next question. -/
theorem session_of_forgotten (r : Reader) (uses : List Use) :
    ((r.kept .nothing).after uses = r.kept .nothing
        ∧ ∀ q answer, .answer q answer ∉ (r.kept .nothing).seen uses)
      ∨ ((r.kept .nothing).after uses).reads = r.reads + 2
        ∧ ∀ q answer, .answer q answer ∈ (r.kept .nothing).seen uses →
            answer = .error (.rejected .empty) := by
  have empty : (r.kept .nothing).outcome = .error (.rejected .empty) := outcome_exhausted .nothing
  have named : ¬ (r.kept .nothing).MissesName := by
    rw [missesName_iff rfl, empty]
    nofun
  rcases session_of_named rfl named uses with idle | ⟨⟨memory, after, -⟩, told⟩
  · exact .inl idle
  · rw [after]
    refine .inr ⟨rfl, fun q answer inside => ?_⟩
    rw [told q answer inside, empty]
    rfl

/-- In a session with a reader whose document misses a local name all questions fail. -/
theorem session_of_missed (nothing : r.memory = .nothing)
    (missed : r.outcome = .error (.badTagName text)) (uses : List Use) :
    (r.after uses).reads ≤ r.reads + 2
      ∧ ∀ q answer, .answer q answer ∈ r.seen uses → ∃ fault, answer = .error fault := by
  rcases idle_or_asked nothing uses with ⟨idle, unseen⟩ | ⟨first, rest, after, seen⟩
  · rw [idle]
    exact ⟨Nat.le_add_right _ _, fun q answer told => (unseen q answer told).elim⟩
  · rw [forgotten_of_asked nothing missed] at after seen
    simp only [sight, ask_answer, (catalog_of_nothing nothing).1, missed] at seen
    rw [after]
    rcases session_of_forgotten r rest with ⟨idle, unseen⟩ | ⟨reads, told⟩
    · rw [idle]
      refine ⟨Nat.le_succ _, fun q answer inside => ?_⟩
      rcases (seen q answer).mp inside with here | later
      · cases here
        exact ⟨_, rfl⟩
      · exact (unseen q answer later).elim
    · refine ⟨reads.le, fun q answer inside => ?_⟩
      rcases (seen q answer).mp inside with here | later
      · cases here
        exact ⟨_, rfl⟩
      · exact ⟨_, told q answer later⟩

/-- All questions of a session are answered from one catalog, or all of them fail. -/
theorem session_cases (nothing : r.memory = .nothing) (uses : List Use) :
    (∃ catalog, r.outcome = .ok catalog ∧ (r.after uses).reads = r.reads + 1
        ∧ (r.after uses).memory = .read catalog
        ∧ ∀ q answer, .answer q answer ∈ r.seen uses → answer = .ok (q.part catalog))
      ∨ (r.after uses).reads ≤ r.reads + 2
        ∧ ∀ q answer, .answer q answer ∈ r.seen uses → ∃ fault, answer = .error fault := by
  by_cases misses : r.MissesName
  · obtain ⟨text, missed⟩ := (missesName_iff nothing).mp misses
    exact .inr (session_of_missed nothing missed uses)
  · rcases session_of_named nothing misses uses with ⟨idle, unseen⟩ | ⟨⟨memory, after, known⟩,
      said⟩
    · rw [idle]
      exact .inr ⟨Nat.le_add_right _ _, fun q answer told => (unseen q answer told).elim⟩
    · rw [after]
      cases told : r.outcome with
      | ok catalog =>
        rw [told] at said
        exact .inl ⟨catalog, rfl, rfl, known catalog told, said⟩
      | error fault =>
        rw [told] at said
        exact .inr ⟨Nat.le_succ _, fun q answer inside => ⟨fault, said q answer inside⟩⟩

/-! ## Answers -/

/-- In no session does one question have an answer and another one fail. Where one has an answer,
the source is read once, all answers are taken from the one catalog that it holds, and whatever
commands were given to its table, the reader still keeps this catalog. Where one fails, the source
is read at most twice. -/
theorem answers_never_mix {identifier : String} {source : Option String} {stream : Option Value}
    {content : Xml.Content} (made : Reader.ofContent identifier source stream content = .ok r)
    (uses : List Use) :
    (∀ q part q' fault, .answer q (.ok part) ∈ r.seen uses →
        .answer q' (.error fault) ∉ r.seen uses)
      ∧ ((∃ q part, .answer q (.ok part) ∈ r.seen uses) →
          (r.after uses).reads = 1
            ∧ ∃ catalog, (Reading.ofContent r.source content).outcome = .ok catalog
              ∧ catalog.namespaces.frozen = true ∧ (r.after uses).memory = .read catalog
              ∧ ∀ q answer, .answer q answer ∈ r.seen uses → answer = .ok (q.part catalog))
      ∧ ((∃ q fault, .answer q (.error fault) ∈ r.seen uses) → (r.after uses).reads ≤ 2) := by
  obtain ⟨nothing, unread, rfl⟩ := fresh_of_made made
  have whole := session_cases nothing uses
  rw [unread] at whole
  rcases whole with ⟨catalog, told, reads, memory, said⟩ | ⟨reads, failed⟩
  · refine ⟨fun q part q' fault _ failed => ?_, fun _ => ?_, fun _ => ?_⟩
    · cases said q' _ failed
    · exact ⟨reads, catalog, told, frozen_of_outcome told, memory, said⟩
    · rw [reads]
      exact Nat.le_succ 1
  · have unanswered : ∀ q part, .answer q (.ok part) ∉ r.seen uses := by
      intro q part told
      obtain ⟨fault, same⟩ := failed q _ told
      cases same
    refine ⟨fun q part _ _ told => (unanswered q part told).elim, fun answered => ?_,
      fun _ => reads⟩
    obtain ⟨q, part, told⟩ := answered
    exact (unanswered q part told).elim

/-- Commands to the table between two questions: the table that is handed out at the end is that
of the first answer. -/
theorem table_is_kept_between_questions :
    let octets := Encoding.utf8.encode
      "<privileges xmlns:p='urn:p'><privilege name='p:a'/></privileges>".toList
    let r : Reader := { format := .xml, source := "<stream>", content := .bytes octets }
    let uses : List Use := [.ask .namespaces, .command (.bind "q" "urn:q"), .command .freeze,
      .command (.addDefaults [("jcr", "urn:p"), ("q", "urn:q")]), .ask .privileges,
      .ask .namespaces]
    let table := (NamespaceTable.ofPairs (("p", "urn:p") :: wellKnown)).freeze
    Reader.ofContent "text/xml" none none (.bytes octets) = .ok r
      ∧ .answer .namespaces (.ok (.namespaces table)) ∈ r.seen uses ∧ (r.after uses).reads = 1
      ∧ ∃ catalog, (r.after uses).memory = .read catalog ∧ catalog.namespaces = table := by
  intro octets r uses table
  have told : .answer .namespaces (.ok (.namespaces table)) ∈ r.seen uses := by decide +kernel
  have made : Reader.ofContent "text/xml" none none (.bytes octets) = .ok r := rfl
  obtain ⟨reads, catalog, -, -, memory, said⟩ := (answers_never_mix made uses).2.1 ⟨_, _, told⟩
  have same : table = catalog.namespaces := Part.namespaces.inj (Except.ok.inj (said _ _ told))
  exact ⟨made, told, reads, catalog, memory, same.symm⟩

/-! ## Failures -/

/-- A failure that is no missed local name is that of all later questions. -/
theorem lasts_of_named (nothing : r.memory = .nothing) (named : ¬ r.MissesName)
    {fault : ReadFault} (failed : (r.ask first).answer = .error fault) (later : List Use) :
    (∀ q answer, .answer q answer ∈ (r.ask first).reader.seen later → answer = .error fault)
      ∧ ((r.ask first).reader.after later).failure? fault = r.failure? fault
      ∧ ((r.ask first).reader.after later).reads = r.reads + 1 := by
  obtain ⟨memory, reader, settled, -⟩ := settled_of_asked (q := first) nothing named
  have told : r.outcome = .error fault := by
    rw [ask_answer, (catalog_of_nothing nothing).1] at failed
    cases outcome : r.outcome <;> rw [outcome] at failed <;> cases failed
    rfl
  rw [reader, settled.after]
  refine ⟨fun q answer inside => ?_, ?_, rfl⟩
  · rw [settled.seen inside, told]
    rfl
  · cases fault <;> rfl

/-- A missed local name is forgotten: from the second question on the source is empty. -/
theorem forgotten_of_missed (nothing : r.memory = .nothing) (misses : r.MissesName)
    (first second : Question) (later : List Use) :
    (∃ text, (r.ask first).answer = .error (.badTagName text))
      ∧ (∀ q answer, .answer q answer ∈ (r.ask first).reader.seen (.ask second :: later) →
          answer = .error (.rejected .empty))
      ∧ ((r.ask first).reader.after (.ask second :: later)).reads = r.reads + 2 := by
  obtain ⟨text, missed⟩ := (missesName_iff nothing).mp misses
  have answered : (r.ask first).answer = .error (.badTagName text) := by
    rw [ask_answer, (catalog_of_nothing nothing).1, missed]
    rfl
  rw [forgotten_of_asked nothing missed]
  rcases session_of_forgotten r (.ask second :: later) with ⟨-, unseen⟩ | ⟨reads, said⟩
  · exact (unseen second _ (mem_seen_cons.mpr (.inl rfl))).elim
  · exact ⟨⟨text, answered⟩, said, reads⟩

/-- The failure of the first question is that of all later ones, in the same words, and the source
is not read again, exactly when the document misses no local name. Otherwise the first question
fails for the name, and all that follow find the source, read a second time, empty. -/
theorem failures_last_iff {identifier : String} {source : Option String} {stream : Option Value}
    {content : Xml.Content} (made : Reader.ofContent identifier source stream content = .ok r) :
    ((∀ first fault, (r.ask first).answer = .error fault → ∀ later : List Use,
        (∀ q answer, .answer q answer ∈ (r.ask first).reader.seen later → answer = .error fault)
          ∧ ((r.ask first).reader.after later).failure? fault = r.failure? fault
          ∧ ((r.ask first).reader.after later).reads = 1) ↔ ¬ r.MissesName)
      ∧ (r.MissesName → ∀ (first second : Question) (later : List Use),
          (∃ text, (r.ask first).answer = .error (.badTagName text))
            ∧ (∀ q answer, .answer q answer ∈ (r.ask first).reader.seen (.ask second :: later) →
                answer = .error (.rejected .empty))
            ∧ ((r.ask first).reader.after (.ask second :: later)).reads = 2) := by
  obtain ⟨nothing, unread, -⟩ := fresh_of_made made
  have asked : .answer .privileges ((r.ask .privileges).reader.ask .privileges).answer
      ∈ (r.ask .privileges).reader.seen [.ask .privileges] := mem_seen_cons.mpr (.inl rfl)
  refine ⟨⟨fun lasts misses => ?_, fun named first fault failed later => ?_⟩, ?_⟩
  · obtain ⟨⟨text, missed⟩, said, -⟩ :=
      forgotten_of_missed nothing misses .privileges .privileges []
    have again := (lasts _ _ missed [.ask .privileges]).1 _ _ asked
    rw [said _ _ asked] at again
    cases again
  · have lasts := lasts_of_named nothing named failed later
    rwa [unread] at lasts
  · intro misses first second later
    have forgotten := forgotten_of_missed nothing misses first second later
    rwa [unread] at forgotten

/-- A text that declares a prefix twice fails at the first question and at the later ones. -/
theorem conflict_lasts :
    let r : Reader :=
      { format := .xml, source := "a.xml",
        content := .text "<privileges xmlns:p='urn:a'><x xmlns:p='urn:b'/><p:x" }
    Reader.ofContent "application/xml" (some "a.xml") none r.content = .ok r
      ∧ (r.ask .namespaces).answer
          = .error (.rejected (.conflict (.conflict "p" "urn:b" ("p", "urn:a"))))
      ∧ ∀ later : List Use, ((r.ask .namespaces).reader.after later).reads = 1 := by
  intro r
  have made : Reader.ofContent "application/xml" (some "a.xml") none r.content = .ok r := by rfl
  have failed : (r.ask .namespaces).answer
      = .error (.rejected (.conflict (.conflict "p" "urn:b" ("p", "urn:a")))) := by decide +kernel
  have named : ¬ r.MissesName := by
    intro misses
    obtain ⟨text, missed⟩ := (missesName_iff rfl).mp misses
    rw [ask_answer, (catalog_of_nothing rfl).1, missed] at failed
    cases failed
  exact ⟨made, failed, fun later =>
    ((failures_last_iff made).1.mpr named .namespaces _ failed later).2.2⟩

/-- A stored document on which two questions fail in different ways: the label of an element is
not declared. -/
theorem undeclared_label_does_not_last :
    let octets := Encoding.utf8.encode "<privileges><p:privilege name='a'/></privileges>".toList
    let r : Reader := { format := .xml, source := "<stream>", content := .bytes octets }
    Reader.ofContent "text/xml" none none (.bytes octets) = .ok r
      ∧ r.seen [.ask .privileges, .ask .namespaces] =
          [.answer .privileges (.error (.badTagName "p:privilege")),
            .answer .namespaces (.error (.rejected .empty))]
      ∧ (r.after [.ask .privileges]).reads = 1
      ∧ (r.after [.ask .privileges, .ask .namespaces]).reads = 2 := by
  intro octets r
  refine ⟨rfl, ?_, ?_, ?_⟩ <;> decide +kernel

end PrivilegeCatalog.Reader
