import PrivilegeCatalog.Proofs.Logged
import PrivilegeCatalog.Proofs.Xml.Telling
import PrivilegeCatalog.Reading

/-!
# What follows a fault does not count

A reading that stops at an event has not looked at what comes after it. So documents that begin
alike are read alike when the reading of one of them stops at an event of the beginning: with the
same remarks and the same fault, whatever the rest of each is and however each is stored
(`what_follows_does_not_count`).
-/

namespace PrivilegeCatalog.Reading

open Xml (Content Document Event)

variable {source : String} {p : Progress} {told more : List Event}

/-- How many events are followed before the one at which the reading stops, if it stops at one. -/
def stopsAfter? (source : String) : Progress → List Event → Option Nat
  | _, [] => none
  | p, event :: rest =>
    match (step source p event).outcome with
    | .error _ => some 0
    | .ok p => (stopsAfter? source p rest).map (· + 1)

/-- The reading of a document stops at an event that is told by the given characters at its
beginning. -/
def StopsWithin (source : String) (beginning : List Char) (content : Content) : Prop :=
  ∃ n, stopsAfter? source {} content.document.events = some n
    ∧ n < (Document.ofChars beginning).events.length

/-! ## Events -/

/-- A reading stops at the same event when it is told nothing after it. -/
theorem stopsAfter?_of_append {n : Nat} (stops : stopsAfter? source p (told ++ more) = some n)
    (within : n < told.length) : stopsAfter? source p told = some n := by
  induction told generalizing p n with
  | nil => cases within
  | cons event rest ih =>
    rw [List.cons_append, stopsAfter?] at stops
    rw [stopsAfter?]
    cases stepped : (step source p event).outcome with
    | error fault =>
      rw [stepped] at stops
      exact stops
    | ok q =>
      rw [stepped] at stops
      obtain ⟨m, later, rfl⟩ := Option.map_eq_some_iff.mp stops
      exact Option.map_eq_some_iff.mpr ⟨m, ih later (Nat.lt_of_succ_lt_succ within), rfl⟩

/-- Events after the one at which a reading stops are not looked at. -/
theorem follow_append_of_stops {n : Nat} (stops : stopsAfter? source p told = some n) :
    ∃ notices fault, ∀ more, follow source p (told ++ more) = ⟨notices, .error fault⟩ := by
  induction told generalizing p n with
  | nil => cases stops
  | cons event rest ih =>
    rw [stopsAfter?] at stops
    rcases stepped : step source p event with ⟨notices, fault | q⟩
    · refine ⟨notices, fault, fun more => ?_⟩
      rw [List.cons_append, follow, stepped, Logged.bind_error]
    · rw [stepped] at stops
      obtain ⟨m, later, -⟩ := Option.map_eq_some_iff.mp stops
      obtain ⟨others, fault, followed⟩ := ih later
      refine ⟨notices ++ others, fault, fun more => ?_⟩
      rw [List.cons_append, follow, stepped, Logged.bind_ok, followed more]

/-! ## Documents -/

/-- A document is read up to the event at which the reading stops. -/
theorem ofContent_of_follow {content : Content} (given : content.isEmpty = false)
    {notices : List Notice} {fault : ReadFault}
    (followed : follow source {} content.document.events = ⟨notices, .error fault⟩) :
    ofContent source content = ⟨notices, .error fault⟩ := by
  rw [ofContent, given, if_neg Bool.false_ne_true, ofDocument, followed, Logged.bind_error]

/-- When the reading of a document stops at an event of its beginning, every document with this
beginning is read with the same remarks and the same fault. -/
theorem what_follows_does_not_count (source : String) (beginning : List Char)
    (content content' : Content) (begins : beginning <+: content.decoded.chars)
    (begins' : beginning <+: content'.decoded.chars)
    (stops : StopsWithin source beginning content) :
    ∃ notices fault, ofContent source content = ⟨notices, .error fault⟩
      ∧ ofContent source content' = ⟨notices, .error fault⟩ := by
  rcases stops with ⟨n, stops, within⟩
  -- Both documents tell what their common beginning tells, and then go on by themselves.
  have told : (Document.ofChars beginning).events <+: content.document.events :=
    Xml.Scan.events_prefix_of_prefix begins
  have told' : (Document.ofChars beginning).events <+: content'.document.events :=
    Xml.Scan.events_prefix_of_prefix begins'
  have given : ∀ {c : Content}, (Document.ofChars beginning).events <+: c.document.events →
      c.isEmpty = false := by
    intro c toldBy
    rw [← Bool.not_eq_true]
    intro empty
    have length := toldBy.length_le
    rw [Content.events_of_isEmpty empty] at length
    exact absurd (Nat.lt_of_lt_of_le within length) (Nat.not_lt_zero n)
  obtain ⟨more, split⟩ := told
  obtain ⟨more', split'⟩ := told'
  rw [← split] at stops
  obtain ⟨notices, fault, followed⟩ := follow_append_of_stops (stopsAfter?_of_append stops within)
  refine ⟨notices, fault, ofContent_of_follow (given ⟨more, split⟩) ?_,
    ofContent_of_follow (given ⟨more', split'⟩) ?_⟩
  · rw [← split, followed more]
  · rw [← split', followed more']

/-- A privilege without a name is reported, whether the document ends well as a text or breaks off
as octets. -/
theorem nameless_privilege_is_reported :
    let beginning := "<privileges>\n<privilege/>".toList
    let content := Content.text "<privileges>\n<privilege/></privileges>"
    let content' := Content.bytes (Encoding.utf8.encode "<privileges>\n<privilege/><a b".toList)
    beginning <+: content.decoded.chars ∧ beginning <+: content'.decoded.chars
      ∧ StopsWithin "" beginning content
      ∧ ∃ notices fault, ofContent "" content = ⟨notices, .error fault⟩
        ∧ ofContent "" content' = ⟨notices, .error fault⟩ := by
  intro beginning content content'
  have begins : beginning <+: content.decoded.chars := by decide +kernel
  have begins' : beginning <+: content'.decoded.chars := by decide +kernel
  have stops : StopsWithin "" beginning content := ⟨2, by decide +kernel, by decide +kernel⟩
  exact ⟨begins, begins', stops,
    what_follows_does_not_count "" beginning content content' begins begins' stops⟩

end PrivilegeCatalog.Reading
