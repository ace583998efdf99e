import Mathlib.Data.List.Infix
import PrivilegeCatalog.Toml.Nested

/-!
# What reading leaves

Each function that reads a piece of a settings file answers what it read and the characters after
it. Those are the last of the characters that it was given: with a value before them (`Leaves`),
or by themselves where something is only passed over (`Skips`). Both are kept when one piece is
read after another.
-/

namespace PrivilegeCatalog.Toml

variable {α β : Type} {cs rest more : List Char} {c : Char}

/-- Whatever has been read, the characters after it are the last of those given. -/
def Leaves (cs : List Char) (found : Option (α × List Char)) : Prop :=
  ∀ a rest, found = some (a, rest) → rest <:+ cs

namespace Leaves

theorem none : Leaves cs (Option.none : Option (α × List Char)) := nofun

theorem some {a : α} (within : rest <:+ cs) : Leaves cs (Option.some (a, rest)) := by
  rintro _ _ ⟨⟩
  exact within

theorem mono {found : Option (α × List Char)} (leaves : Leaves rest found)
    (within : rest <:+ cs) :
    Leaves cs found := fun a more read => (leaves a more read).trans within

theorem cons {found : Option (α × List Char)} (leaves : Leaves cs found) :
    Leaves (c :: cs) found :=
  leaves.mono (List.suffix_cons c cs)

theorem map {found : Option (α × List Char)} (leaves : Leaves cs found) (f : α → β) :
    Leaves cs (found.map fun (a, rest) => (f a, rest)) := by
  intro b rest read
  obtain ⟨⟨a, rest⟩, first, ⟨⟩⟩ := Option.map_eq_some_iff.mp read
  exact leaves a rest first

theorem bind {found : Option (α × List Char)} {next : α × List Char → Option (β × List Char)}
    (leaves : Leaves cs found) (goesOn : ∀ a rest, rest <:+ cs → Leaves rest (next (a, rest))) :
    Leaves cs (found >>= next) := by
  intro b more read
  obtain ⟨⟨a, rest⟩, first, second⟩ := Option.bind_eq_some_iff.mp read
  have within := leaves a rest first
  exact (goesOn a rest within b more second).trans within

/-- What is looked up on the way plays no part. -/
theorem of_bind {given : Option β} {next : β → Option (α × List Char)}
    (leaves : ∀ b, Leaves cs (next b)) : Leaves cs (given >>= next) := by
  intro a rest read
  obtain ⟨b, -, read⟩ := Option.bind_eq_some_iff.mp read
  exact leaves b a rest read

theorem getD {found : Option (α × List Char)} (leaves : Leaves cs found) (a : α) :
    (found.getD (a, cs)).2 <:+ cs := by
  cases found with
  | none => exact List.suffix_refl cs
  | some pair => exact leaves _ _ rfl

end Leaves

/-- Whatever has been passed over, what is left are the last of the characters. -/
def Skips (cs : List Char) (found : Option (List Char)) : Prop :=
  ∀ rest, found = some rest → rest <:+ cs

namespace Skips

theorem mono {found : Option (List Char)} (skips : Skips rest found) (within : rest <:+ cs) :
    Skips cs found := fun more read => (skips more read).trans within

theorem bind {found : Option (List Char)} {next : List Char → Option (List Char)}
    (skips : Skips cs found) (goesOn : ∀ rest, Skips rest (next rest)) :
    Skips cs (found >>= next) := by
  intro more read
  obtain ⟨rest, first, second⟩ := Option.bind_eq_some_iff.mp read
  exact (goesOn rest more second).trans (skips rest first)

theorem leaves {found : Option (List Char)} {next : List Char → Option (β × List Char)}
    (skips : Skips cs found) (goesOn : ∀ rest, Leaves rest (next rest)) :
    Leaves cs (found >>= next) := by
  intro b more read
  obtain ⟨rest, first, second⟩ := Option.bind_eq_some_iff.mp read
  exact (goesOn rest b more second).trans (skips rest first)

end Skips

theorem Leaves.skips {found : Option (α × List Char)} {next : α × List Char → Option (List Char)}
    (leaves : Leaves cs found) (goesOn : ∀ a rest, Skips rest (next (a, rest))) :
    Skips cs (found >>= next) := by
  intro more read
  obtain ⟨⟨a, rest⟩, first, second⟩ := Option.bind_eq_some_iff.mp read
  exact (goesOn a rest more second).trans (leaves a rest first)

/-! ## Blanks, comments and texts -/

theorem skipBlanks_suffix (cs : List Char) : skipBlanks cs <:+ cs := List.dropWhile_suffix _

theorem comment?_skips (cs : List Char) : Skips cs (comment? cs) := by
  intro rest read
  fun_induction comment? cs with
  | case1 | case2 =>
    cases read
    exact List.suffix_refl _
  | case3 => cases read
  | case4 c others _ _ ih => exact (ih read).trans (List.suffix_cons c others)

theorem skipLines?_skips (inComment : Bool) (cs : List Char) :
    Skips cs (skipLines? inComment cs) := by
  intro rest read
  fun_induction skipLines? inComment cs with
  | case1 | case7 =>
    cases read
    exact List.suffix_refl _
  | case3 => cases read
  | case2 _ _ _ _ ih | case4 _ _ _ _ ih | case5 _ _ _ _ _ _ ih | case6 _ _ _ _ _ _ _ ih =>
    exact (ih read).trans (List.suffix_cons ..)

theorem escapedText?_leaves (multiline : Bool) (margin : Margin) (cs : List Char) :
    Leaves cs (escapedText? multiline margin cs) := by
  fun_induction escapedText? multiline margin cs with
  | case1 | case4 | case13 | case14 => exact .none
  | case2 _ _ _ _ ih | case3 _ _ _ _ _ ih => exact ih.cons
  | case5 => exact (Leaves.some (List.suffix_refl _)).cons.cons.cons
  | case7 => exact (Leaves.some (List.suffix_refl _)).cons
  | case6 _ _ _ _ _ _ _ _ _ ih | case15 _ _ _ _ _ _ _ _ _ ih => exact (ih.map _).cons
  | case8 =>
    rename_i ih
    exact .of_bind fun _ => (ih.map _).mono (List.suffix_append [_, _, _, _, _, _] _)
  | case9 =>
    rename_i ih
    exact .of_bind fun _ => (ih.map _).mono (List.suffix_append [_, _, _, _, _, _, _, _, _, _] _)
  | case12 =>
    rename_i ih
    exact .of_bind fun _ => (ih.map _).cons.cons
  | case10 _ _ _ _ _ _ _ _ _ _ _ _ ih | case11 _ _ _ _ _ _ _ _ _ _ _ _ _ ih => exact ih.cons.cons

theorem plainText?_leaves (cs : List Char) : Leaves cs (plainText? cs) := by
  fun_induction plainText? cs with
  | case1 | case3 => exact .none
  | case2 => exact (Leaves.some (List.suffix_refl _)).cons
  | case4 _ _ _ _ ih => exact (ih.map _).cons

theorem plainLines?_leaves (cs : List Char) : Leaves cs (plainLines? cs) := by
  fun_induction plainLines? cs with
  | case1 => exact (Leaves.some (List.suffix_refl _)).cons.cons.cons
  | case2 | case4 => exact .none
  | case3 _ _ _ _ ih => exact (ih.map _).cons

theorem skipFirstEnd_suffix (cs : List Char) : skipFirstEnd cs <:+ cs := by
  unfold skipFirstEnd
  split
  · exact List.suffix_cons ..
  · exact List.suffix_refl _

theorem lastQuotes_suffix (quote : Char) (found : List Char × List Char) :
    (lastQuotes quote found).2 <:+ found.2 := by
  unfold lastQuotes
  split
  · split
    · exact List.suffix_append [_, _] _
    · split
      · exact List.suffix_cons ..
      · exact List.suffix_refl _
  · split
    · exact List.suffix_cons ..
    · exact List.suffix_refl _
  · exact List.suffix_refl _

theorem text?_leaves (cs : List Char) : Leaves cs (text? cs) := by
  have lines : ∀ {quote : Char} {rest : List Char} {found : Option (List Char × List Char)},
      Leaves (skipFirstEnd rest) found → Leaves rest (found.map fun found =>
        (String.ofList (lastQuotes quote found).1, (lastQuotes quote found).2)) := by
    intro quote rest found leaves s more read
    obtain ⟨⟨text, last⟩, first, ⟨⟩⟩ := Option.map_eq_some_iff.mp read
    exact ((lastQuotes_suffix quote _).trans (leaves text last first)).trans
      (skipFirstEnd_suffix rest)
  unfold text?
  split
  · exact (lines (escapedText?_leaves _ _ _)).cons.cons.cons
  · exact (lines (plainLines?_leaves _)).cons.cons.cons
  · exact ((escapedText?_leaves _ _ _).map _).cons
  · exact ((plainText?_leaves _).map _).cons
  · exact .none

/-! ## Keys -/

theorem keyPart?_leaves (cs : List Char) : Leaves cs (keyPart? cs) := by
  unfold keyPart?
  split
  · exact ((escapedText?_leaves _ _ _).map _).cons
  · exact ((plainText?_leaves _).map _).cons
  · dsimp only
    split
    · exact .none
    · exact .some (List.dropWhile_suffix _)

theorem keys?_leaves (fuel : Nat) (cs : List Char) : Leaves cs (keys? fuel cs) := by
  induction fuel generalizing cs with
  | zero => exact .none
  | succ fuel ih =>
    refine (keyPart?_leaves cs).bind fun key rest _ => ?_
    dsimp only
    split
    case h_1 more dot =>
      refine Leaves.mono ?_ (skipBlanks_suffix rest)
      rw [dot]
      refine Leaves.cons (((ih _).mono (skipBlanks_suffix more)).bind fun path last _ => ?_)
      exact .some (List.suffix_refl _)
    case h_2 => exact .some (skipBlanks_suffix rest)

theorem path?_leaves (cs : List Char) : Leaves cs (path? cs) := keys?_leaves _ cs

theorem after?_skips (mark : Char) (cs : List Char) : Skips cs (after? mark cs) := by
  intro rest read
  unfold after? at read
  split at read
  · split at read
    · cases read
      exact List.suffix_cons ..
    · cases read
  · cases read

theorem assignment?_leaves (cs : List Char) : Leaves cs (assignment? cs) := by
  refine (path?_leaves cs).bind fun path rest _ => (after?_skips '=' rest).leaves fun more => ?_
  exact .some (skipBlanks_suffix more)

/-! ## Dates and times -/

theorem digits?_leaves (n : Nat) (cs : List Char) : Leaves cs (digits? n cs) := by
  fun_induction digits? n cs with
  | case1 => exact .some (List.suffix_refl _)
  | case2 _ _ _ _ ih => exact (ih.map _).cons
  | case3 | case4 => exact .none

theorem date?_leaves (cs : List Char) : Leaves cs (date? cs) := by
  refine (digits?_leaves 4 cs).bind fun year rest _ =>
    (after?_skips '-' rest).leaves fun rest => ?_
  refine (digits?_leaves 2 rest).bind fun month rest _ =>
    (after?_skips '-' rest).leaves fun rest => ?_
  refine (digits?_leaves 2 rest).bind fun day rest _ => ?_
  dsimp only
  split
  · exact .some (List.suffix_refl _)
  · exact .none

theorem hourMinute?_skips (cs : List Char) : Skips cs (hourMinute? cs) := by
  refine (digits?_leaves 2 cs).skips fun hour rest => (after?_skips ':' rest).bind fun rest => ?_
  refine (digits?_leaves 2 rest).skips fun minute rest => ?_
  dsimp only
  split
  · rintro _ ⟨⟩
    exact List.suffix_refl _
  · exact nofun

theorem time?_skips (cs : List Char) : Skips cs (time? cs) := by
  refine (hourMinute?_skips cs).bind fun rest => (after?_skips ':' rest).bind fun rest => ?_
  refine (digits?_leaves 2 rest).skips fun second rest => ?_
  dsimp only
  split
  · split
    · split
      · rintro _ ⟨⟩
        exact (List.dropWhile_suffix _).trans (List.suffix_append [_, _] _)
      · rintro _ ⟨⟩
        exact List.suffix_refl _
    · rintro _ ⟨⟩
      exact List.suffix_refl _
  · exact nofun

theorem skipOffset_suffix (cs : List Char) : skipOffset cs <:+ cs := by
  unfold skipOffset
  split
  · exact List.suffix_cons ..
  · exact List.suffix_cons ..
  · split
    · rename_i c rest _ _ _
      cases read : hourMinute? rest with
      | none => exact List.suffix_refl _
      | some more => exact (hourMinute?_skips rest more read).trans (List.suffix_cons c rest)
    · exact List.suffix_refl _
  · exact List.suffix_refl _

theorem timeAfterDate?_skips (cs : List Char) : Skips cs (timeAfterDate? cs) := by
  intro rest read
  unfold timeAfterDate? at read
  split at read
  · split at read
    · rename_i c more _
      obtain ⟨last, first, rfl⟩ := Option.map_eq_some_iff.mp read
      exact ((skipOffset_suffix last).trans (time?_skips more last first)).trans
        (List.suffix_cons c more)
    · cases read
  · cases read

theorem moment?_suffix {v : Value} (read : moment? cs = some (some (v, rest))) : rest <:+ cs := by
  unfold moment? at read
  split at read
  · cases read
  case h_2 later date =>
    have within := date?_leaves cs _ _ date
    split at read
    case h_1 more time =>
      cases read
      exact (timeAfterDate?_skips later _ time).trans within
    case h_2 =>
      cases read
      exact within
  · obtain ⟨last, first, made⟩ := Option.map_eq_some_iff.mp read
    cases made
    exact time?_skips cs rest first

end PrivilegeCatalog.Toml
