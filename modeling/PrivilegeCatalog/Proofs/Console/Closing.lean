import Mathlib.Data.List.TakeWhile
import PrivilegeCatalog.Console.Markup

/-!
# The rules of tags

What a tag does to those that are open, said without the functions that do it. A tag opens another
one; with a slash it closes the last one of its name, or the last one of all when no name is told.
A handler can only be closed when its parameters are a literal (`Turns`). Tags do what they can
exactly when they keep these rules one after the other (`foldlM_afterTag_isOk`).
-/

namespace PrivilegeCatalog.Console

variable {evaluates : List Char → Bool} {opened left : List OpenTag} {tag : OpenTag}
  {body written named : List Char} {parameters : Option (List Char)}

/-! ## The parts of a tag -/

/-- A tag is made of the name that is written in it, and of what stands behind the first sign of
equality, if there is one. -/
inductive Parts : (body written : List Char) → (parameters : Option (List Char)) → Prop
  | bare {written : List Char} (name : '=' ∉ written) : Parts written written none
  | given {written : List Char} (name : '=' ∉ written) (parameters : List Char) :
    Parts (written ++ '=' :: parameters) written (some parameters)

theorem parts_iff :
    Parts body written parameters ↔ written = body.takeWhile (· != '=') ∧ parameters =
      if written.length < body.length then some (body.drop (written.length + 1)) else none := by
  have others : ∀ {cs : List Char}, '=' ∉ cs → ∀ c ∈ cs, (c != '=') = true := by
    intro cs none_ c inside
    rw [bne_iff_ne]
    rintro rfl
    exact none_ inside
  constructor
  · rintro (name | ⟨name, parameters⟩)
    · exact ⟨(List.takeWhile_eq_self_iff.mpr (others name)).symm, by simp⟩
    · rw [List.takeWhile_append_of_pos (others name), List.takeWhile_cons_of_neg (by simp)]
      simp
  · rintro ⟨rfl, rfl⟩
    have name : '=' ∉ body.takeWhile (· != '=') := fun inside => by
      simpa using List.mem_takeWhile_imp inside
    have whole := List.takeWhile_append_dropWhile (p := (· != '=')) (l := body)
    cases dropped : body.dropWhile (· != '=') with
    | nil =>
      rw [dropped, List.append_nil] at whole
      rw [whole, if_neg (Nat.lt_irrefl _)]
      exact .bare (whole ▸ name)
    | cons c rest =>
      have sign : c = '=' := by
        have first := List.head?_dropWhile_not (· != '=') body
        rw [dropped] at first
        simpa using first
      subst sign
      rw [dropped] at whole
      have longer : (body.takeWhile (· != '=')).length < body.length := by
        have lengths := congrArg List.length whole
        rw [List.length_append, List.length_cons] at lengths
        omega
      have behind : body.drop ((body.takeWhile (· != '=')).length + 1) = rest := by
        have cut := congrArg (List.drop ((body.takeWhile (· != '=')).length + 1)) whole
        rw [List.drop_length_add_append] at cut
        exact cut.symm
      have parts := Parts.given name rest
      rw [whole] at parts
      rw [if_pos longer, behind]
      exact parts

/-! ## The rules -/

/-- The parameters of a handler that is closed are a literal. -/
def OpenTag.Reads (evaluates : List Char → Bool) (tag : OpenTag) : Prop :=
  tag.isHandler = true → ∀ parameters, tag.parameters = some parameters → parameters ≠ [] →
    evaluates (literalIn parameters) = true

/-- The rules for a tag under those that are open, the last one first: it opens another, it closes
the last one, or it closes the last one of a name. -/
inductive Turns (evaluates : List Char → Bool) : List OpenTag → List Char → List OpenTag → Prop
  | opens {opened : List OpenTag} {body written : List Char} {parameters : Option (List Char)}
    {name : String} (parts : Parts body written parameters) (opens : written.head? ≠ some '/')
    (named : nameOf written = .ok name) :
    Turns evaluates opened body (⟨name, parameters⟩ :: opened)
  | closesLast {opened : List OpenTag} {tag : OpenTag} {body named : List Char}
    {parameters : Option (List Char)} (parts : Parts body ('/' :: named) parameters)
    (nameless : Text.trimBy Text.isBlank named = []) (reads : tag.Reads evaluates) :
    Turns evaluates (tag :: opened) body opened
  | closes {before after : List OpenTag} {tag : OpenTag} {body named : List Char}
    {parameters : Option (List Char)} (parts : Parts body ('/' :: named) parameters)
    (given : Text.trimBy Text.isBlank named ≠ [])
    (told : nameOf (Text.trimBy Text.isBlank named) = .ok tag.name)
    (last : ∀ other ∈ before, other.name ≠ tag.name) (reads : tag.Reads evaluates) :
    Turns evaluates (before ++ tag :: after) body (before ++ after)

/-- The rules for tags one after the other. -/
inductive Closes (evaluates : List Char → Bool) : List OpenTag → List (List Char) → Prop
  | nil {opened : List OpenTag} : Closes evaluates opened []
  | cons {opened left : List OpenTag} {body : List Char} {others : List (List Char)}
    (first : Turns evaluates opened body left) (rest : Closes evaluates left others) :
    Closes evaluates opened (body :: others)

/-! ## What a tag does -/

/-- The first place of a list at which something holds, told by what stands before it and after
it. -/
theorem findIdx?_eq_some_iff_append {α : Type} {p : α → Bool} {xs : List α} {place : Nat} :
    xs.findIdx? p = some place ↔ ∃ before x after, xs = before ++ x :: after ∧ p x = true
      ∧ (∀ y ∈ before, p y = false) ∧ before.length = place := by
  constructor
  · intro found
    obtain ⟨within, holds, earlier⟩ := List.findIdx?_eq_some_iff_getElem.mp found
    refine ⟨xs.take place, xs[place], xs.drop (place + 1), ?_, holds, fun y inside => ?_,
      List.length_take_of_le within.le⟩
    · rw [List.getElem_cons_drop, List.take_append_drop]
    · obtain ⟨j, before, rfl⟩ := List.mem_take_iff_getElem.mp inside
      simpa using earlier j (Nat.lt_of_lt_of_le before (Nat.min_le_left _ _))
  · rintro ⟨before, x, after, rfl, holds, earlier, rfl⟩
    rw [List.findIdx?_append, List.findIdx?_eq_none_iff.mpr earlier, List.findIdx?_cons,
      if_pos holds]
    simp

theorem eraseIdx_length {α : Type} (before : List α) (x : α) (after : List α) :
    (before ++ x :: after).eraseIdx before.length = before ++ after := by
  rw [List.eraseIdx_append_of_length_le (Nat.le_refl _), Nat.sub_self]
  rfl

theorem close_eq_ok : close evaluates tag = .ok () ↔ tag.Reads evaluates := by
  rw [close, OpenTag.Reads]
  cases tag.parameters with
  | none => simp
  | some parameters =>
    cases tag.isHandler <;> cases parameters <;> simp

theorem turn_of_name (parts : Parts body written parameters) (opens : written.head? ≠ some '/') :
    turn opened body = (nameOf written).map fun name => .opens ⟨name, parameters⟩ := by
  obtain ⟨name, rest⟩ := parts_iff.mp parts
  unfold turn
  dsimp only
  rw [← name, ← rest]
  split
  case h_1 => exact absurd rfl opens
  case h_2 => cases nameOf written <;> rfl

/-- What a tag with a slash does, by what is told behind the slash. -/
theorem turn_of_slash (parts : Parts body ('/' :: named) parameters) :
    turn opened body =
      if (Text.trimBy Text.isBlank named).isEmpty then
        if opened.isEmpty then .error (.notOpen "") else .ok (.closes 0)
      else (nameOf (Text.trimBy Text.isBlank named)).bind fun name =>
        (opened.findIdx? (·.name == name)).elim (.error (.notOpen name)) (.ok <| .closes ·) := by
  unfold turn
  dsimp only
  rw [← (parts_iff.mp parts).1]
  split
  case h_2 other => exact absurd rfl (other named)
  case h_1 same =>
    cases same
    cases nameOf (Text.trimBy Text.isBlank named) with
    | error fault => rfl
    | ok name =>
      congr 1
      cases found : opened.findIdx? (·.name == name) <;>
        simp [bind, pure, Except.bind, Except.pure, found]

/-- A tag that closes another takes it away, if the parameters of that can be read. -/
theorem afterTag_of_closes {place : Nat} (turned : turn opened body = .ok (.closes place))
    (found : opened[place]? = some tag) :
    afterTag evaluates opened body = .ok left
      ↔ tag.Reads evaluates ∧ left = opened.eraseIdx place := by
  rw [afterTag, turned, ← close_eq_ok]
  simp only [Except.bind, bind, found]
  cases close evaluates tag with
  | error fault => exact iff_of_false nofun nofun
  | ok done => exact ⟨fun same => ⟨rfl, (Except.ok.inj same).symm⟩, fun ⟨_, same⟩ => same ▸ rfl⟩

theorem afterTag_ne_ok {fault : MarkupFault} (turned : turn opened body = .error fault) :
    afterTag evaluates opened body ≠ .ok left := by
  rw [afterTag, turned]
  nofun

theorem turns_of_slash (parts : Parts body ('/' :: named) parameters)
    (done : afterTag evaluates opened body = .ok left) : Turns evaluates opened body left := by
  have turned := @turn_of_slash opened body named parameters parts
  by_cases nameless : Text.trimBy Text.isBlank named = []
  · rw [if_pos (List.isEmpty_iff.mpr nameless)] at turned
    cases opened with
    | nil => exact absurd done (afterTag_ne_ok turned)
    | cons tag opened =>
      obtain ⟨reads, rfl⟩ := (afterTag_of_closes turned rfl).mp done
      exact .closesLast parts nameless reads
  · rw [if_neg (fun none_ => nameless (List.isEmpty_iff.mp none_))] at turned
    cases told : nameOf (Text.trimBy Text.isBlank named) with
    | error fault =>
      rw [told] at turned
      exact absurd done (afterTag_ne_ok turned)
    | ok name =>
      rw [told, Except.bind] at turned
      cases found : opened.findIdx? (·.name == name) with
      | none =>
        rw [found] at turned
        exact absurd done (afterTag_ne_ok turned)
      | some place =>
        rw [found] at turned
        obtain ⟨before, tag, after, rfl, same, last, rfl⟩ := findIdx?_eq_some_iff_append.mp found
        obtain rfl := eq_of_beq same
        have there : (before ++ tag :: after)[before.length]? = some tag := by simp
        obtain ⟨reads, rfl⟩ := (afterTag_of_closes turned there).mp done
        rw [eraseIdx_length]
        exact .closes parts nameless told (by simpa using last) reads

/-- What a tag does is what the rules say. -/
theorem afterTag_eq_ok :
    afterTag evaluates opened body = .ok left ↔ Turns evaluates opened body left := by
  constructor
  · intro done
    obtain ⟨written, parameters, parts⟩ : ∃ written parameters, Parts body written parameters :=
      ⟨_, _, parts_iff.mpr ⟨rfl, rfl⟩⟩
    by_cases slash : written.head? = some '/'
    · obtain ⟨named, rfl⟩ := List.head?_eq_some_iff.mp slash
      exact turns_of_slash parts done
    · rw [afterTag, turn_of_name parts slash] at done
      cases named : nameOf written with
      | error fault =>
        rw [named] at done
        cases done
      | ok name =>
        rw [named] at done
        obtain rfl := Except.ok.inj done
        exact .opens parts slash named
  · intro turns
    cases turns with
    | opens parts opens named =>
      rw [afterTag, turn_of_name parts opens, named]
      rfl
    | @closesLast _ tag _ _ _ parts nameless reads =>
      have turned := @turn_of_slash (tag :: left) _ _ _ parts
      rw [if_pos (List.isEmpty_iff.mpr nameless), if_neg nofun] at turned
      exact (afterTag_of_closes turned rfl).mpr ⟨reads, rfl⟩
    | @closes before after tag _ _ _ parts given told last reads =>
      have place : (before ++ tag :: after).findIdx? (·.name == tag.name) = some before.length :=
        findIdx?_eq_some_iff_append.mpr
          ⟨before, tag, after, rfl, beq_self_eq_true _, by simpa using last, rfl⟩
      have turned := @turn_of_slash (before ++ tag :: after) _ _ _ parts
      rw [if_neg (fun none_ => given (List.isEmpty_iff.mp none_)), told, Except.bind, place]
        at turned
      exact (afterTag_of_closes turned (by simp)).mpr
        ⟨reads, (eraseIdx_length before tag after).symm⟩

/-- Tags can do what they do when they keep the rules. -/
theorem foldlM_afterTag_isOk {bodies : List (List Char)} :
    (bodies.foldlM (afterTag evaluates) opened).isOk = true ↔ Closes evaluates opened bodies := by
  induction bodies generalizing opened with
  | nil => exact iff_of_true rfl .nil
  | cons body others ih =>
    rw [List.foldlM_cons]
    cases done : afterTag evaluates opened body with
    | error fault =>
      refine iff_of_false nofun ?_
      rintro (_ | ⟨first, -⟩)
      rw [afterTag_eq_ok.mpr first] at done
      cases done
    | ok left =>
      refine ih.trans ⟨.cons (afterTag_eq_ok.mp done), ?_⟩
      rintro (_ | ⟨first, rest⟩)
      obtain rfl := Except.ok.inj (done.symm.trans (afterTag_eq_ok.mpr first))
      exact rest

/-- A tag that is opened and closed leaves nothing open, unless it is for a handler. -/
theorem Closes.closed {opening closing : List Char} {others : List (List Char)}
    (opens : turn [] opening = .ok (.opens tag)) (closes : turn [tag] closing = .ok (.closes 0))
    (plain : tag.isHandler = false) (rest : Closes evaluates [] others) :
    Closes evaluates [] (opening :: closing :: others) := by
  have opened : afterTag evaluates [] opening = .ok [tag] := by
    rw [afterTag, opens]
    rfl
  have reads : tag.Reads evaluates := fun handler => absurd (plain.symm.trans handler) nofun
  have closed : afterTag evaluates [tag] closing = .ok [] :=
    (afterTag_of_closes closes rfl).mpr ⟨reads, rfl⟩
  exact .cons (afterTag_eq_ok.mp opened) (.cons (afterTag_eq_ok.mp closed) rest)

end PrivilegeCatalog.Console
