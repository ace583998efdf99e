import PrivilegeCatalog.Proofs.Toml.Rest
import PrivilegeCatalog.Toml.Document

/-!
# Numbers of too many digits

A settings file that is well formed may still not be read: a whole decimal number has a largest
number of digits. When that is why a file cannot be read, it holds more digits than that in a row,
save for marks between them (`read_number`). A file without such a run of digits is read, or is
malformed. One in which a key is given nothing but too many digits is refused for them
(`read_digits`).
-/

namespace PrivilegeCatalog.Toml

variable {α β : Type} {cs rest more : List Char} {c : Char}

/-! ## Runs of digits -/

theorem sign_suffix (cs : List Char) : (sign cs).2 <:+ cs := by
  unfold sign
  split
  · exact List.suffix_cons ..
  · exact List.suffix_cons ..
  · exact List.suffix_refl _

/-- A run of digits with marks between them. -/
structure IsRun (isDigit : Char → Bool) (run digits : List Char) : Prop where
  marks : ∀ c ∈ run, isDigit c = true ∨ c = '_'
  digits : run.filter isDigit = digits

variable {isDigit : Char → Bool}

theorem IsRun.nil : IsRun isDigit [] [] := ⟨nofun, rfl⟩

theorem IsRun.cons {run digits : List Char} (isRun : IsRun isDigit run digits)
    (digit : isDigit c = true) : IsRun isDigit (c :: run) (c :: digits) :=
  ⟨List.forall_mem_cons.mpr ⟨.inl digit, isRun.marks⟩,
    by rw [List.filter_cons_of_pos digit, isRun.digits]⟩

theorem IsRun.mark {run digits : List Char} (isRun : IsRun isDigit run digits)
    (noDigit : isDigit '_' = false) : IsRun isDigit ('_' :: run) digits :=
  ⟨List.forall_mem_cons.mpr ⟨.inr rfl, isRun.marks⟩,
    by rw [List.filter_cons_of_neg (by rw [noDigit]; decide), isRun.digits]⟩

theorem moreDigits_run (noDigit : isDigit '_' = false) (cs : List Char) :
    ∃ run, run ++ (moreDigits isDigit cs).2 = cs
      ∧ IsRun isDigit run (moreDigits isDigit cs).1 := by
  fun_induction moreDigits isDigit cs with
  | case1 c rest digit digits more read ih =>
    rw [read] at ih
    obtain ⟨run, whole, isRun⟩ := ih
    exact ⟨'_' :: c :: run, congrArg ('_' :: c :: ·) whole, (isRun.cons digit).mark noDigit⟩
  | case3 c rest _ digit digits more read ih =>
    rw [read] at ih
    obtain ⟨run, whole, isRun⟩ := ih
    exact ⟨c :: run, congrArg (c :: ·) whole, isRun.cons digit⟩
  | case2 | case4 | case5 => exact ⟨[], rfl, .nil⟩

theorem digitRun?_run (noDigit : isDigit '_' = false) {digits : List Char}
    (read : digitRun? isDigit cs = some (digits, rest)) :
    ∃ run, run ++ rest = cs ∧ IsRun isDigit run digits := by
  unfold digitRun? at read
  split at read
  case h_1 c others =>
    split at read
    case isTrue digit =>
      cases read
      obtain ⟨run, whole, isRun⟩ := moreDigits_run noDigit others
      exact ⟨c :: run, congrArg (c :: ·) whole, isRun.cons digit⟩
    case isFalse => cases read
  case h_2 => cases read

theorem digitRun?_leaves (noDigit : isDigit '_' = false) (cs : List Char) :
    Leaves cs (digitRun? isDigit cs) := by
  intro digits rest read
  obtain ⟨run, whole, -⟩ := digitRun?_run noDigit read
  exact ⟨run, whole⟩

theorem basedNumber?_leaves (cs : List Char) : Leaves cs (basedNumber? cs) := by
  unfold basedNumber?
  split
  case h_1 mark rest =>
    refine .of_bind fun base => Leaves.cons (Leaves.cons ?_)
    exact (digitRun?_leaves rfl rest).bind fun digits more _ => .some (List.suffix_refl _)
  case h_2 => exact .none

theorem wholePart?_run {digits : List Char} (read : wholePart? cs = some (digits, rest)) :
    ∃ run, run ++ rest = cs ∧ IsRun Char.isDigit run digits := by
  unfold wholePart? at read
  split at read
  · cases read
    exact ⟨['0'], rfl, IsRun.nil.cons rfl⟩
  · exact digitRun?_run rfl read

theorem fraction?_leaves (cs : List Char) : Leaves cs (fraction? cs) := by
  unfold fraction?
  split
  · exact (digitRun?_leaves rfl _).cons
  · exact .none

theorem exponent?_leaves (cs : List Char) : Leaves cs (exponent? cs) := by
  unfold exponent?
  split
  case h_1 c rest =>
    dsimp only
    split
    · refine Leaves.cons (Leaves.mono ?_ (sign_suffix rest))
      exact (digitRun?_leaves rfl _).bind fun digits more _ => .some (List.suffix_refl _)
    · exact .none
  case h_2 => exact .none

theorem specialNumber?_leaves (cs : List Char) : Leaves cs (specialNumber? cs) := by
  have unsigned := sign_suffix cs
  unfold specialNumber?
  generalize sign cs = signed at unsigned ⊢
  obtain ⟨negative, digits⟩ := signed
  refine Leaves.mono ?_ unsigned
  dsimp only
  split
  · exact .some (List.suffix_append ['i', 'n', 'f'] _)
  · exact .some (List.suffix_append ['n', 'a', 'n'] _)
  · exact .none

theorem truth?_leaves (cs : List Char) : Leaves cs (truth? cs) := by
  unfold truth?
  split
  · exact .some (List.suffix_append ['t', 'r', 'u', 'e'] _)
  · exact .some (List.suffix_append ['f', 'a', 'l', 's', 'e'] _)
  · exact .none

/-- A text holds a run of so many decimal digits, which are too many. -/
def HoldsLongNumber (n : Nat) (cs : List Char) : Prop :=
  digitLimit < n ∧ ∃ run digits, run <:+: cs ∧ IsRun Char.isDigit run digits ∧ digits.length = n

theorem HoldsLongNumber.mono {n : Nat} (holds : HoldsLongNumber n rest) (within : rest <:+: cs) :
    HoldsLongNumber n cs := by
  obtain ⟨long, run, digits, inside, isRun, length⟩ := holds
  exact ⟨long, run, digits, inside.trans within, isRun, length⟩

/-- Whatever has been read, the characters after it are the last of those given, and when a number
cannot be read since it has too many digits, the digits are among them. -/
structure Explained (cs : List Char) (found : Except Fault (α × List Char)) : Prop where
  rest : ∀ a rest, found = .ok (a, rest) → rest <:+ cs
  number : ∀ n, found = .error (.numberTooLong n) → HoldsLongNumber n cs

namespace Explained

variable {found : Except Fault (α × List Char)}

theorem ok {a : α} (within : rest <:+ cs) : Explained cs (.ok (a, rest)) where
  rest := by
    rintro _ _ ⟨⟩
    exact within
  number := nofun

theorem malformed : Explained cs (.error .malformed : Except Fault (α × List Char)) :=
  ⟨nofun, nofun⟩

theorem mono (explained : Explained rest found) (within : rest <:+ cs) : Explained cs found where
  rest a more read := (explained.rest a more read).trans within
  number n refused := (explained.number n refused).mono within.isInfix

theorem bind {next : α × List Char → Except Fault (β × List Char)}
    (explained : Explained cs found) (goesOn : ∀ a rest, Explained rest (next (a, rest))) :
    Explained cs (found >>= next) := by
  cases found with
  | ok pair =>
    obtain ⟨a, rest⟩ := pair
    exact (goesOn a rest).mono (explained.rest a rest rfl)
  | error fault =>
    refine ⟨nofun, fun n refused => explained.number n ?_⟩
    rw [Except.error.inj refused]

theorem of_leaves {found : Option (α × List Char)} (leaves : Leaves cs found) :
    Explained cs (orMalformed found) := by
  cases found with
  | none => exact .malformed
  | some pair => exact .ok (leaves _ _ rfl)

/-- What is put together on the way plays no part. -/
theorem of_bind {given : Option β} {next : β → Except Fault (α × List Char)}
    (explained : ∀ b, Explained cs (next b)) : Explained cs (orMalformed given >>= next) := by
  cases given with
  | none => exact .malformed
  | some b => exact explained b

theorem of_skips {found : Option (List Char)} {next : List Char → Except Fault (α × List Char)}
    (skips : Skips cs found) (goesOn : ∀ rest, Explained rest (next rest)) :
    Explained cs (orMalformed found >>= next) := by
  cases found with
  | none => exact .malformed
  | some rest => exact (goesOn rest).mono (skips rest rfl)

end Explained

theorem decimalNumber?_explained {found : Except Fault Found}
    (read : decimalNumber? cs = some found) : Explained cs found := by
  refine Explained.mono ?_ (sign_suffix cs)
  unfold decimalNumber? at read
  generalize sign cs = signed at read ⊢
  obtain ⟨negative, unsigned⟩ := signed
  obtain ⟨⟨whole, later⟩, first, read⟩ := Option.bind_eq_some_iff.mp read
  obtain ⟨run, parts, isRun⟩ := wholePart?_run first
  have within : later <:+ unsigned := ⟨run, parts⟩
  have places := (fraction?_leaves later).getD []
  have power := (exponent?_leaves ((fraction? later).getD ([], later)).2).getD 0
  dsimp only at read
  split at read
  · split at read
    case isTrue long =>
      cases read
      refine ⟨nofun, ?_⟩
      rintro _ ⟨⟩
      exact ⟨long, run, whole, ⟨[], later, parts⟩, isRun, rfl⟩
    case isFalse =>
      cases read
      exact .ok (places.trans within)
  · cases read
    exact .ok ((power.trans places).trans within)

theorem scalar_explained (cs : List Char) : Explained cs (scalar cs) := by
  unfold scalar
  split
  case h_1 s rest read => exact .ok (text?_leaves cs s rest read)
  case h_2 =>
    split
    case h_1 found read => exact .ok (truth?_leaves cs _ _ read)
    case h_2 =>
      split
      case h_1 found read => exact .ok (moment?_suffix read)
      case h_2 => exact .malformed
      case h_3 =>
        split
        case h_1 found read => exact .ok (basedNumber?_leaves cs _ _ read)
        case h_2 outcome _ read => exact decimalNumber?_explained read
        case h_3 found read => exact .ok (specialNumber?_leaves cs _ _ read)
        case h_4 => exact .malformed

/-! ## Values and lines -/

/-- Whatever is read of a value with so much fuel is explained. -/
structure ValuesExplained (fuel : Nat) : Prop where
  value : ∀ cs, Explained cs (valueFrom fuel cs)
  items : ∀ earlier cs, Explained cs (itemsFrom fuel earlier cs)
  entries : ∀ earlier closed cs, Explained cs (entriesFrom fuel earlier closed cs)

namespace ValuesExplained

variable {fuel : Nat}

theorem valueFrom_succ (within : ValuesExplained fuel) (cs : List Char) :
    Explained cs (valueFrom (fuel + 1) cs) := by
  unfold valueFrom
  split
  case h_1 => exact .malformed
  case h_2 _ rest same =>
    cases same
    refine Explained.mono (.of_skips (skipLines?_skips false rest) fun more => ?_)
      (List.suffix_cons ..)
    split
    · exact .ok (List.suffix_cons ..)
    · exact within.items [] more
  case h_3 _ rest same =>
    cases same
    refine Explained.mono ?_ ((skipBlanks_suffix rest).trans (List.suffix_cons ..))
    split
    case h_1 more ends =>
      rw [ends]
      exact .ok (List.suffix_cons ..)
    case h_2 => exact within.entries [] [] _
  case h_4 => exact scalar_explained _

theorem itemsFrom_succ (within : ValuesExplained fuel) (earlier : List Value) (cs : List Char) :
    Explained cs (itemsFrom (fuel + 1) earlier cs) := by
  unfold itemsFrom
  refine (within.value cs).bind fun v rest =>
    .of_skips (skipLines?_skips false rest) fun more => ?_
  split
  · exact .ok (List.suffix_cons ..)
  · refine Explained.mono (.of_skips (skipLines?_skips false _) fun more => ?_)
      (List.suffix_cons ..)
    split
    · exact .ok (List.suffix_cons ..)
    · exact within.items _ more
  · exact .malformed

theorem entriesFrom_succ (within : ValuesExplained fuel) (earlier : Section) (closed : List Path)
    (cs : List Char) : Explained cs (entriesFrom (fuel + 1) earlier closed cs) := by
  unfold entriesFrom
  refine (Explained.of_leaves (assignment?_leaves cs)).bind fun path rest => ?_
  refine (within.value rest).bind fun v rest => .of_bind fun parts => ?_
  dsimp only
  split
  · exact .malformed
  · refine .of_bind fun section_ => ?_
    refine Explained.mono ?_ (skipBlanks_suffix rest)
    split
    case h_1 more ends =>
      rw [ends]
      exact .ok (List.suffix_cons ..)
    case h_2 more next =>
      rw [next]
      exact (within.entries _ _ _).mono ((skipBlanks_suffix more).trans (List.suffix_cons ..))
    case h_3 => exact .malformed

end ValuesExplained

theorem valuesExplained (fuel : Nat) : ValuesExplained fuel := by
  induction fuel with
  | zero => exact ⟨fun _ => .malformed, fun _ _ => .malformed, fun _ _ _ => .malformed⟩
  | succ fuel ih => exact ⟨ih.valueFrom_succ, ih.itemsFrom_succ, ih.entriesFrom_succ⟩

theorem value_explained (cs : List Char) : Explained cs (value cs) := (valuesExplained _).value cs

theorem headingPath?_leaves (closing cs : List Char) : Leaves cs (headingPath? closing cs) := by
  refine Leaves.mono ((path?_leaves _).bind fun path rest _ => ?_) (skipBlanks_suffix cs)
  dsimp only
  split
  · exact .some (List.drop_suffix _ _)
  · exact .none

theorem statement_explained (d : Draft) (cs : List Char) : Explained cs (statement d cs) := by
  unfold statement
  split
  case h_1 rest =>
    refine Explained.of_leaves (Leaves.mono ?_ (List.suffix_append ['[', '['] rest))
    refine (headingPath?_leaves _ rest).bind fun path more _ => .of_bind fun d => ?_
    exact .some (List.suffix_refl _)
  case h_2 rest _ =>
    refine Explained.of_leaves (Leaves.mono ?_ (List.suffix_cons ..))
    refine (headingPath?_leaves _ rest).bind fun path more _ => .of_bind fun d => ?_
    exact .some (List.suffix_refl _)
  case h_3 =>
    refine (Explained.of_leaves (assignment?_leaves cs)).bind fun path rest => ?_
    refine (value_explained rest).bind fun v more => .of_bind fun d => ?_
    exact .ok (List.suffix_refl _)

theorem endOfLine?_skips (cs : List Char) : Skips cs (endOfLine? cs) := by
  refine Skips.mono ?_ (skipBlanks_suffix cs)
  unfold endOfLine?
  split
  case h_1 rest remark =>
    rw [remark]
    refine ((comment?_skips rest).bind fun rest => ?_).mono (List.suffix_cons ..)
    dsimp only
    split
    · rintro _ ⟨⟩
      exact List.suffix_refl _
    · rintro _ ⟨⟩
      exact List.suffix_cons ..
    · rintro _ ⟨⟩
  case h_2 =>
    rw [Option.bind_eq_bind, Option.bind_some]
    generalize skipBlanks cs = rest
    dsimp only
    split
    · rintro _ ⟨⟩
      exact List.suffix_refl _
    · rintro _ ⟨⟩
      exact List.suffix_cons ..
    · rintro _ ⟨⟩

theorem line_explained (d : Draft) (cs : List Char) : Explained cs (line d cs) := by
  unfold line
  split
  case h_1 rest ends => exact .ok (endOfLine?_skips cs rest ends)
  case h_2 =>
    refine Explained.mono ((statement_explained d _).bind fun d rest => ?_) (skipBlanks_suffix cs)
    exact .of_skips (endOfLine?_skips rest) fun more => .ok (List.suffix_refl _)

theorem lines_number {fuel : Nat} {d : Draft} {n : Nat}
    (refused : lines fuel d cs = .error (.numberTooLong n)) : HoldsLongNumber n cs := by
  induction fuel generalizing d cs with
  | zero => cases cs <;> cases refused
  | succ fuel ih =>
    cases cs with
    | nil => cases refused
    | cons c rest =>
      have first := line_explained d (c :: rest)
      rw [lines.eq_3 _ _ _ (List.cons_ne_nil c rest)] at refused
      cases read : line d (c :: rest) with
      | error fault =>
        rw [read] at first refused
        exact first.number n (congrArg _ (Except.error.inj refused))
      | ok pair =>
        obtain ⟨d, later⟩ := pair
        rw [read] at first refused
        exact (ih refused).mono (first.rest d later rfl).isInfix

/-! ## The whole file -/

theorem prefix_of_plainEnds (oneLine : '\n' ∉ more) (starts : more <+: plainEnds cs) :
    more <+: cs := by
  fun_induction plainEnds cs generalizing more with
  | case1 rest ih =>
    cases more with
    | nil => exact List.nil_prefix
    | cons c more =>
      obtain ⟨rfl, -⟩ := List.cons_prefix_cons.mp starts
      exact absurd (List.mem_cons_self ..) oneLine
  | case2 c rest _ ih =>
    cases more with
    | nil => exact List.nil_prefix
    | cons first more =>
      obtain ⟨rfl, later⟩ := List.cons_prefix_cons.mp starts
      have others : '\n' ∉ more := fun inside => oneLine (List.mem_cons_of_mem _ inside)
      exact List.cons_prefix_cons.mpr ⟨rfl, ih others later⟩
  | case3 => exact starts

/-- What stands in one line stands there whatever the ends of lines are. -/
theorem infix_of_plainEnds (oneLine : '\n' ∉ more) (inside : more <:+: plainEnds cs) :
    more <:+: cs := by
  fun_induction plainEnds cs with
  | case1 rest ih =>
    rcases List.infix_cons_iff.mp inside with starts | later
    · cases more with
      | nil => exact List.nil_infix
      | cons c more =>
        obtain ⟨rfl, -⟩ := List.cons_prefix_cons.mp starts
        exact absurd (List.mem_cons_self ..) oneLine
    · exact (ih later).trans (List.suffix_append ['\r', '\n'] rest).isInfix
  | case2 c rest other ih =>
    rcases List.infix_cons_iff.mp inside with starts | later
    · rw [← plainEnds.eq_2 c rest other] at starts
      exact (prefix_of_plainEnds oneLine starts).isInfix
    · exact (ih later).trans (List.suffix_cons c rest).isInfix
  | case3 => exact inside

/-- A file in which a number has too many digits has so many digits in a row, with marks between
them. -/
theorem read_number {n : Nat} (refused : read cs = .error (.numberTooLong n)) :
    HoldsLongNumber n cs := by
  rw [read] at refused
  cases told : lines ((plainEnds cs).length + 1) {} (plainEnds cs) with
  | ok d =>
    rw [told] at refused
    cases refused
  | error fault =>
    rw [told] at refused
    obtain rfl := Except.error.inj refused
    obtain ⟨long, run, digits, inside, isRun, length⟩ := lines_number told
    have oneLine : '\n' ∉ run := fun inside => by
      rcases isRun.marks _ inside with digit | mark
      · cases digit
      · cases mark
    exact ⟨long, run, digits, infix_of_plainEnds oneLine inside, isRun, length⟩

/-! ## Texts of digits -/

/-- All characters are decimal digits. -/
def AllDigits (cs : List Char) : Prop := ∀ d ∈ cs, d.isDigit = true

namespace AllDigits

theorem head (all : AllDigits (c :: rest)) : c.isDigit = true := all c (List.mem_cons_self ..)

theorem tail (all : AllDigits (c :: rest)) : AllDigits rest := fun d inside =>
  all d (List.mem_cons_of_mem c inside)

theorem head_ne (all : AllDigits (c :: rest)) (e : Char) (noDigit : e.isDigit = false) :
    (c == e) = false := by
  rw [beq_eq_false_iff_ne]
  rintro rfl
  cases all.head.symm.trans noDigit

theorem suffix (all : AllDigits cs) (within : rest <:+ cs) : AllDigits rest := fun d inside =>
  all d (within.subset inside)

theorem text?_eq_none (all : AllDigits cs) : text? cs = none := by
  unfold text?
  split
  case h_5 => rfl
  all_goals cases all.head

theorem truth?_eq_none (all : AllDigits cs) : truth? cs = none := by
  unfold truth?
  split
  case h_3 => rfl
  all_goals cases all.head

theorem after?_eq_none (all : AllDigits cs) {mark : Char} (noDigit : mark.isDigit = false) :
    after? mark cs = none := by
  cases cs with
  | nil => rfl
  | cons d rest =>
    rw [after?, all.head_ne mark noDigit]
    rfl

/-- Digits alone are no date, since a mark stands between a year and a month. -/
theorem date?_eq_none (all : AllDigits cs) : date? cs = none := by
  rw [date?]
  cases read : digits? 4 cs with
  | none => rfl
  | some pair =>
    obtain ⟨year, rest⟩ := pair
    have noMark : after? '-' rest = none :=
      (all.suffix (digits?_leaves 4 cs year rest read)).after?_eq_none rfl
    rw [Option.bind_eq_bind, Option.bind_some]
    dsimp only
    rw [noMark]
    rfl

theorem hourMinute?_eq_none (all : AllDigits cs) : hourMinute? cs = none := by
  rw [hourMinute?]
  cases read : digits? 2 cs with
  | none => rfl
  | some pair =>
    obtain ⟨hour, rest⟩ := pair
    have noMark : after? ':' rest = none :=
      (all.suffix (digits?_leaves 2 cs hour rest read)).after?_eq_none rfl
    rw [Option.bind_eq_bind, Option.bind_some]
    dsimp only
    rw [noMark]
    rfl

theorem moment?_eq_none (all : AllDigits cs) : moment? cs = none := by
  have noTime : time? cs = none := by
    rw [time?, all.hourMinute?_eq_none]
    rfl
  rw [moment?, all.date?_eq_none, noTime]
  rfl

theorem basedNumber?_eq_none (all : AllDigits cs) : basedNumber? cs = none := by
  unfold basedNumber?
  split
  case h_1 mark rest =>
    have noMark : [('x', 16), ('o', 8), ('b', 2)].lookup mark = none := by
      rw [List.lookup_cons, all.tail.head_ne 'x' rfl, List.lookup_cons, all.tail.head_ne 'o' rfl,
        List.lookup_cons, all.tail.head_ne 'b' rfl]
      rfl
    rw [noMark]
    rfl
  case h_2 => rfl

theorem sign_eq (all : AllDigits cs) : sign cs = (false, cs) := by
  unfold sign
  split
  case h_3 => rfl
  all_goals cases all.head

theorem moreDigits_eq (all : AllDigits cs) : moreDigits Char.isDigit cs = (cs, []) := by
  induction cs with
  | nil => rfl
  | cons d rest ih =>
    have noMark : d ≠ '_' := by
      rintro rfl
      cases all.head
    rw [moreDigits.eq_2 _ _ _ (fun _ _ mark _ => noMark mark), if_pos all.head, ih all.tail]

theorem wholePart?_eq (all : AllDigits cs) (filled : cs ≠ []) (first : cs.head? ≠ some '0') :
    wholePart? cs = some (cs, []) := by
  cases cs with
  | nil => exact absurd rfl filled
  | cons d rest =>
    rw [wholePart?.eq_2 _ (fun _ same => first (congrArg List.head? same)), digitRun?,
      if_pos all.head, all.tail.moreDigits_eq]

/-- Too many digits without a zero before them are refused as a number. -/
theorem decimalNumber?_eq (all : AllDigits cs) (long : digitLimit < cs.length)
    (first : cs.head? ≠ some '0') :
    decimalNumber? cs = some (.error (.numberTooLong cs.length)) := by
  have filled : cs ≠ [] := List.ne_nil_of_length_pos (Nat.zero_lt_of_lt long)
  have alone :
      ((fraction? []).isNone && (exponent? ((fraction? []).getD ([], [])).2).isNone) = true := rfl
  rw [decimalNumber?, all.sign_eq]
  dsimp only
  rw [all.wholePart?_eq filled first, Option.bind_eq_bind, Option.bind_some]
  dsimp only
  rw [if_pos alone, if_pos long]
  rfl

/-- They are no text, no truth value, no date and no time before they are refused. -/
theorem scalar_eq (all : AllDigits cs) (long : digitLimit < cs.length)
    (first : cs.head? ≠ some '0') : scalar cs = .error (.numberTooLong cs.length) := by
  rw [scalar, all.text?_eq_none, all.truth?_eq_none, all.moment?_eq_none,
    all.basedNumber?_eq_none, all.decimalNumber?_eq long first]

theorem skipBlanks_eq (all : AllDigits cs) : skipBlanks cs = cs := by
  cases cs with
  | nil => rfl
  | cons d rest =>
    refine List.dropWhile_cons_of_neg fun blank => ?_
    have digit := all.head
    rw [isBlank, Bool.or_eq_true, beq_iff_eq, beq_iff_eq] at blank
    rcases blank with rfl | rfl <;> cases digit

theorem value_eq (all : AllDigits cs) (long : digitLimit < cs.length)
    (first : cs.head? ≠ some '0') : value cs = .error (.numberTooLong cs.length) := by
  rw [value, valueFrom.eq_4]
  · exact all.scalar_eq long first
  · rintro rest rfl
    cases all.head
  · rintro rest rfl
    cases all.head

end AllDigits

theorem plainEnds_of_not_mem (noReturn : '\r' ∉ cs) : plainEnds cs = cs := by
  fun_induction plainEnds cs with
  | case1 rest ih => exact absurd (List.mem_cons_self ..) noReturn
  | case2 c rest _ ih => rw [ih fun inside => noReturn (List.mem_cons_of_mem c inside)]
  | case3 => rfl

/-- A file that gives a key a number of too many digits is not read. -/
theorem read_digits (all : AllDigits cs) (long : digitLimit < cs.length)
    (first : cs.head? ≠ some '0') :
    read ('a' :: '=' :: cs) = .error (.numberTooLong cs.length) := by
  have noEnds : plainEnds ('a' :: '=' :: cs) = 'a' :: '=' :: cs := by
    refine plainEnds_of_not_mem fun inside => ?_
    rcases List.mem_cons.mp inside with same | inside
    · cases same
    · rcases List.mem_cons.mp inside with same | inside
      · cases same
      · cases all _ inside
  have given : assignment? ('a' :: '=' :: cs) = some (["a"], skipBlanks cs) := rfl
  have told : statement {} ('a' :: '=' :: cs) = .error (.numberTooLong cs.length) := by
    rw [statement.eq_3 _ _ (fun _ same => by cases same) (fun _ same => by cases same), given,
      all.skipBlanks_eq, orMalformed]
    change (value cs >>= _) = _
    rw [all.value_eq long first]
    rfl
  have oneLine : line {} ('a' :: '=' :: cs) = .error (.numberTooLong cs.length) := by
    have noEnd : endOfLine? ('a' :: '=' :: cs) = none := rfl
    have noBlank : skipBlanks ('a' :: '=' :: cs) = 'a' :: '=' :: cs := rfl
    rw [line, noEnd, noBlank, told]
    rfl
  rw [read, noEnds, List.length_cons, lines.eq_3 _ _ _ (List.cons_ne_nil _ _), oneLine]
  rfl

end PrivilegeCatalog.Toml
