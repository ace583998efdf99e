import Mathlib.Data.List.TakeWhile
import PrivilegeCatalog.DocumentFormat
import PrivilegeCatalog.Proofs.Logged
import PrivilegeCatalog.Proofs.LowerCase
import PrivilegeCatalog.Reading

/-!
# Words that are known in any case

The media types of the formats and the two truth values are known in any case and between blanks
of any script. Only the case of ASCII letters counts as case: no other spelling is let in by the
lower-case forms of letters beyond ASCII, and none is kept out (`recognized_up_to_ascii_case`).
-/

namespace PrivilegeCatalog

/-- Two texts are the same but for the case of their ASCII letters. -/
def Text.SameUpToCase (s t : String) : Prop := foldAscii s = foldAscii t

instance (s t : String) : Decidable (Text.SameUpToCase s t) :=
  inferInstanceAs (Decidable (Text.foldAscii s = Text.foldAscii t))

/-- The lower-case form of a text is a word exactly when the text is the word up to the case of
ASCII letters. -/
theorem Text.lower_eq_iff_sameUpToCase {s word : String}
    (ascii : (word.toList.all fun c => c.toNat < 0x80) = true) (noK : 'k' ∉ word.toList)
    (small : foldAscii word = word) : lower s = word ↔ SameUpToCase s word := by
  have low : ∀ c ∈ word.toList, c.toNat < 0x80 := fun c inside =>
    of_decide_eq_true (List.all_eq_true.mp ascii c inside)
  rw [lower_eq_iff low noK, SameUpToCase, small]

/-! ## Media types -/

namespace DocumentFormat

/-- The media type in an identifier is what stands before its first semicolon. -/
def HasMedia (identifier media : String) : Prop :=
  ∃ parameters, identifier.toList = media.toList ++ parameters
    ∧ ';' ∉ media.toList ∧ (parameters = [] ∨ parameters.head? = some ';')

theorem hasMedia_iff {identifier media : String} :
    HasMedia identifier media ↔
      media = String.ofList (identifier.toList.takeWhile (· != ';')) := by
  constructor
  · intro has
    rcases has with ⟨parameters, same, apart, ending⟩
    have inside : ∀ c ∈ media.toList, (c != ';') = true := by
      intro c among
      rw [bne_iff_ne]
      intro mark
      exact apart (mark ▸ among)
    have stops : parameters.takeWhile (· != ';') = [] := by
      rcases ending with empty | first
      · rw [empty]
        rfl
      · cases parameters with
        | nil => rfl
        | cons c rest =>
          cases first
          rfl
    rw [same, List.takeWhile_append_of_pos inside, stops, List.append_nil, String.ofList_toList]
  · intro same
    subst same
    refine ⟨identifier.toList.dropWhile (· != ';'), ?_, ?_, ?_⟩
    · rw [String.toList_ofList, List.takeWhile_append_dropWhile]
    · rw [String.toList_ofList]
      intro among
      exact absurd (List.mem_takeWhile_imp among) (by decide)
    · cases rest : identifier.toList.dropWhile (· != ';') with
      | nil => exact .inl rfl
      | cons c others =>
        have mark := List.head?_dropWhile_not (· != ';') identifier.toList
        rw [rest] at mark
        exact .inr (by simpa using mark)

/-- The words by which the format is known. -/
def IsKnown (media : String) : Prop :=
  Text.SameUpToCase media "text/xml" ∨ Text.SameUpToCase media "application/xml"

/-- A word in lower case is registered when it is one of the two. -/
theorem lookup_registered {word : String} :
    registered.lookup word
      = if word = "text/xml" ∨ word = "application/xml" then some xml else none := by
  by_cases text : word = "text/xml"
  · subst text
    rfl
  · by_cases application : word = "application/xml"
    · subst application
      rfl
    · rw [if_neg (by simp [text, application]), registered]
      rw [List.lookup_cons, beq_eq_false_iff_ne.mpr application, List.lookup_cons,
        beq_eq_false_iff_ne.mpr text]
      rfl

theorem mediaType_known {identifier media : String} (has : HasMedia identifier media) :
    (mediaType identifier = "text/xml" ∨ mediaType identifier = "application/xml") ↔
      IsKnown (Text.trim media) := by
  have type : mediaType identifier = Text.lower (Text.trim media) := by
    rw [mediaType, hasMedia_iff.mp has, Text.trim, String.toList_ofList]
  have text := @Text.lower_eq_iff_sameUpToCase (Text.trim media) "text/xml" (by decide)
    (by decide) (by decide)
  have application := @Text.lower_eq_iff_sameUpToCase (Text.trim media) "application/xml"
    (by decide) (by decide) (by decide)
  rw [type, IsKnown, text, application]

/-- An identifier stands for the format when its media type is known, and for none otherwise. -/
theorem resolve_eq {identifier media : String} (has : HasMedia identifier media) :
    (IsKnown (Text.trim media) → resolve identifier = .ok xml)
      ∧ (¬ IsKnown (Text.trim media) → resolve identifier = .error ⟨identifier⟩) := by
  rw [← mediaType_known has, resolve, lookup_registered]
  constructor
  · intro known
    rw [if_pos known]
  · intro foreign
    rw [if_neg foreign]

end DocumentFormat

/-! ## Truth values -/

namespace Reading

open Vocabulary

/-- A value is taken for a truth value when it is its word up to the case of ASCII letters. -/
theorem truth?_eq_some {value : String} {b : Bool} :
    truth? value = some b ↔ Text.SameUpToCase (Text.trim value) (toString b) := by
  have yes := @Text.lower_eq_iff_sameUpToCase (Text.trim value) "true" (by decide)
    (by decide) (by decide)
  have no := @Text.lower_eq_iff_sameUpToCase (Text.trim value) "false" (by decide)
    (by decide) (by decide)
  unfold truth?
  dsimp only
  split_ifs with first second
  · cases b
    · have other : ¬ Text.SameUpToCase (Text.trim value) "false" := by
        rw [← no, first]
        decide
      exact ⟨fun same => absurd same (by decide), fun same => (other same).elim⟩
    · exact ⟨fun _ => yes.mp first, fun _ => rfl⟩
  · cases b
    · exact ⟨fun _ => no.mp second, fun _ => rfl⟩
    · exact ⟨fun same => absurd same (by decide), fun same => (first (yes.mpr same)).elim⟩
  · cases b
    · exact ⟨fun same => absurd same (by decide), fun same => (second (no.mpr same)).elim⟩
    · exact ⟨fun same => absurd same (by decide), fun same => (first (yes.mpr same)).elim⟩

/-- An element is marked by a known value, or by none at all. -/
theorem abstractOf_eq_ok {tag : Xml.Tag} {b : Bool} :
    (abstractOf tag).outcome = .ok b ↔
      (tag.attribute? abstractAttribute = none ∧ b = false)
        ∨ ∃ value, tag.attribute? abstractAttribute = some value
            ∧ Text.SameUpToCase (Text.trim value) (toString b) := by
  simp only [← truth?_eq_some]
  unfold abstractOf
  cases given : tag.attribute? abstractAttribute with
  | none => simp [eq_comm]
  | some value => cases known : truth? value <;> simp [known, reject, Logged.fail]

/-- Every other value is refused as it is written, under the line of the element. -/
theorem abstractOf_eq_error {tag : Xml.Tag} {fault : ReadFault} :
    (abstractOf tag).outcome = .error fault ↔
      ∃ value, tag.attribute? abstractAttribute = some value
        ∧ (∀ b : Bool, ¬ Text.SameUpToCase (Text.trim value) (toString b))
        ∧ fault = .rejected (.abstractInvalid value tag.line) := by
  simp only [← truth?_eq_some]
  unfold abstractOf
  cases given : tag.attribute? abstractAttribute with
  | none => simp
  | some value => cases known : truth? value <;> simp [known, reject, Logged.fail, eq_comm]

end Reading

/-! ## All words -/

open Vocabulary
open DocumentFormat (HasMedia IsKnown hasMedia_iff resolve resolve_eq)

/-- A format is found exactly for the identifiers whose media type, without outer blanks, is one
of the two known ones up to the case of ASCII letters, and all others are refused as they are. An
element is marked exactly by the values that are a truth value in the same sense, and all others
are refused. -/
theorem recognized_up_to_ascii_case :
    (∀ identifier format, resolve identifier = .ok format ↔
        ∃ media, HasMedia identifier media ∧ IsKnown (Text.trim media))
      ∧ (∀ identifier u, resolve identifier = .error u ↔
          u = ⟨identifier⟩ ∧ ∃ media, HasMedia identifier media ∧ ¬ IsKnown (Text.trim media))
      ∧ (∀ tag b, (Reading.abstractOf tag).outcome = .ok b ↔
          (tag.attribute? abstractAttribute = none ∧ b = false)
            ∨ ∃ value, tag.attribute? abstractAttribute = some value
                ∧ Text.SameUpToCase (Text.trim value) (toString b))
      ∧ ∀ tag fault, (Reading.abstractOf tag).outcome = .error fault ↔
          ∃ value, tag.attribute? abstractAttribute = some value
            ∧ (∀ b : Bool, ¬ Text.SameUpToCase (Text.trim value) (toString b))
            ∧ fault = .rejected (.abstractInvalid value tag.line) := by
  have media := fun identifier : String => (@hasMedia_iff identifier _).mpr rfl
  refine ⟨fun identifier format => ?_, fun identifier u => ?_,
    fun tag b => Reading.abstractOf_eq_ok, fun tag fault => Reading.abstractOf_eq_error⟩
  · obtain ⟨known, foreign⟩ := resolve_eq (media identifier)
    constructor
    · intro found
      refine ⟨_, media identifier, ?_⟩
      by_contra other
      rw [foreign other] at found
      cases found
    · intro has
      rcases has with ⟨m, has, isKnown⟩
      cases format
      exact (resolve_eq has).1 isKnown
  · obtain ⟨known, foreign⟩ := resolve_eq (media identifier)
    constructor
    · intro refused
      by_cases isKnown :
        IsKnown (Text.trim (String.ofList (identifier.toList.takeWhile (· != ';'))))
      · rw [known isKnown] at refused
        cases refused
      · rw [foreign isKnown] at refused
        cases refused
        exact ⟨rfl, _, media identifier, isKnown⟩
    · intro has
      rcases has with ⟨rfl, m, has, other⟩
      exact (resolve_eq has).2 other

/-- Blanks of any script are cut off, and parameters play no part. -/
example : resolve "\u00a0TEXT/xMl\u2003; charset=UTF-8" = .ok .xml := by decide +kernel

/-- The dotted I is put down to a small i with a dot of its own, which is another word. -/
example : resolve "applİcation/xml" = .error ⟨"applİcation/xml"⟩ := by decide +kernel

/-- A capital sigma is put down in one way or the other by its neighbours, and to no letter of
ASCII. -/
example : Text.lower "ΟΔΟΣ ΣΑΣ" = "οδος σας" := by decide +kernel

end PrivilegeCatalog
