import PrivilegeCatalog.Proofs.Reading.Faults
import PrivilegeCatalog.Reader

/-!
# What a reader reports

A question to a reader that fails is reported as a document that cannot be read or as one that
breaks a rule about content. The one exception is a document with an element that is asked for its
local name and has none (`failures_are_reported_iff`); it shows at the first question only, since
the source is at its end afterwards.
-/

namespace PrivilegeCatalog.Reader

open Xml (Content Node)

/-- A failure of one of the two kinds that a document can cause. -/
def IsReported (r : Reader) (fault : ReadFault) : Prop :=
  ∃ failure, r.failure? fault = some failure
    ∧ (failure.kind = .parse ∨ failure.kind = .validation)

/-- The next question to the reader misses a local name. -/
def MissesName (r : Reader) : Prop :=
  r.memory = .nothing ∧ r.content.isEmpty = false
    ∧ ∃ text, Reading.NamelessIn r.source {} r.content.document.events text

theorem isReported_rejected (r : Reader) (reason : Rejection) :
    r.IsReported (.rejected reason) := by
  refine ⟨_, rfl, ?_⟩
  cases reason with
  | nameRepeated => exact .inr rfl
  | _ => exact .inl rfl

theorem isReported_iff {r : Reader} {fault : ReadFault} :
    r.IsReported fault ↔ ∀ text, fault ≠ .badTagName text := by
  cases fault with
  | rejected reason => exact ⟨fun _ => nofun, fun _ => r.isReported_rejected reason⟩
  | badTagName text =>
    refine ⟨fun reported => ?_, fun named => (named text rfl).elim⟩
    obtain ⟨failure, told, -⟩ := reported
    cases told

/-- A reader that has kept nothing answers what reading gives. -/
theorem catalog_answer_of_nothing {r : Reader} (empty : r.memory = .nothing) :
    r.catalog.answer = (Reading.ofContent r.source r.content).outcome := by
  rw [catalog, empty]

/-- A local name is missed exactly when nothing is kept and the document does not give it. -/
theorem catalog_nameless {r : Reader} {text : String} :
    r.catalog.answer = .error (.badTagName text) ↔
      r.memory = .nothing ∧ r.content.isEmpty = false
        ∧ Reading.NamelessIn r.source {} r.content.document.events text := by
  cases memory : r.memory with
  | nothing =>
    rw [catalog_answer_of_nothing memory, Reading.ofContent_nameless]
    simp only [true_and]
  | rejected reason => simp [catalog, memory]
  | read catalog => simp [Reader.catalog, memory]

/-- The two questions fail as the reading does. -/
theorem failed_iff {r : Reader} {fault : ReadFault} :
    (r.privileges.answer = .error fault ∨ r.namespaces.answer = .error fault)
      ↔ r.catalog.answer = .error fault := by
  rw [privileges, namespaces]
  cases r.catalog.answer <;> simp [Except.map]

/-- A source at its end is empty. -/
theorem isEmpty_exhausted (content : Content) : (exhausted content).isEmpty = true := by
  cases content <;> rfl

/-- After a question the source is at its end, or something is kept. -/
theorem not_missesName_of_asked (r : Reader) : ¬ r.catalog.reader.MissesName := by
  intro misses
  obtain ⟨nothing, left, -⟩ := misses
  cases memory : r.memory with
  | nothing =>
    rw [catalog, memory] at left
    rw [isEmpty_exhausted] at left
    cases left
  | rejected reason => simp [catalog, memory] at nothing
  | read catalog => simp [Reader.catalog, memory] at nothing

/-- Every failure of a question is reported as one of the two kinds, unless the next question
misses a local name. A document that keeps the rules of XML then holds a closing brace in the
namespace of an element whose name is asked for; and later questions miss none. -/
theorem failures_are_reported_iff (r : Reader) :
    ((∀ fault, r.privileges.answer = .error fault ∨ r.namespaces.answer = .error fault →
          r.IsReported fault) ↔ ¬ r.MissesName)
      ∧ (r.MissesName → r.content.document.wellFormed = true →
          ∃ root : Node, r.content.document.events = root.events
            ∧ ∃ tag ∈ root.inspected, '\x7d' ∈ tag.uri.toList)
      ∧ ¬ r.privileges.reader.MissesName ∧ ¬ r.namespaces.reader.MissesName := by
  refine ⟨⟨?_, ?_⟩, ?_, r.not_missesName_of_asked, r.not_missesName_of_asked⟩
  · intro reported misses
    obtain ⟨nothing, filled, text, missing⟩ := misses
    have failed := failed_iff.mpr (catalog_nameless.mpr ⟨nothing, filled, missing⟩)
    exact isReported_iff.mp (reported _ failed) text rfl
  · intro named fault failed
    refine isReported_iff.mpr fun text same => named ?_
    rw [failed_iff, same] at failed
    obtain ⟨nothing, filled, missing⟩ := catalog_nameless.mp failed
    exact ⟨nothing, filled, text, missing⟩
  · intro misses whole
    obtain ⟨-, -, text, missing⟩ := misses
    exact Reading.exists_illegible whole missing

/-- A document that declares a privilege twice and ends in the middle of a tag: the first fault is
reported. -/
theorem first_fault_is_reported :
    let octets := Encoding.utf8.encode
      "<privileges><privilege name='a'/><privilege name=' a'/><p:x".toList
    let r : Reader := { format := .xml, source := "<stream>", content := .bytes octets }
    Reader.ofContent "text/xml" none none (.bytes octets) = .ok r
      ∧ r.catalog.answer = .error (.rejected (.nameRepeated "a" 1 1))
      ∧ ∀ fault, r.privileges.answer = .error fault ∨ r.namespaces.answer = .error fault →
          r.IsReported fault := by
  intro octets r
  have answer : r.catalog.answer = .error (.rejected (.nameRepeated "a" 1 1)) := by decide +kernel
  refine ⟨rfl, answer, (failures_are_reported_iff r).1.mpr fun misses => ?_⟩
  obtain ⟨nothing, filled, text, missing⟩ := misses
  have failed := catalog_nameless.mpr ⟨nothing, filled, missing⟩
  rw [answer] at failed
  cases failed

/-- A stored document on which a question fails without a report: the label of an element is not
declared. -/
theorem undeclared_label_is_not_reported :
    let octets := Encoding.utf8.encode "<privileges><p:privilege name='a'/></privileges>".toList
    let r : Reader := { format := .xml, source := "<stream>", content := .bytes octets }
    Reader.ofContent "text/xml" none none (.bytes octets) = .ok r
      ∧ r.privileges.answer = .error (.badTagName "p:privilege")
      ∧ ¬ r.IsReported (.badTagName "p:privilege") := by
  intro octets r
  have answer : r.privileges.answer = .error (.badTagName "p:privilege") := by decide +kernel
  exact ⟨rfl, answer, fun reported => isReported_iff.mp reported "p:privilege" rfl⟩

end PrivilegeCatalog.Reader
