import PrivilegeCatalog.Console.Wrap
import PrivilegeCatalog.Proofs.Console.Markup

/-!
# Texts that are shown as they are

Whatever showing a text changes costs it a mark, that is a colon, a bracket or a backslash
(`Thins`): tags go with their brackets, short names with their colons, and pictographs hold no
marks. So a text is shown as it is exactly when it holds no tag, no backslash before a bracket,
and no short name of a pictograph (`flatMap_shown_eq_iff`). Laying it out expands its tabs and
cuts the blanks off lines that are too long (`unwrapped_eq_iff`).
-/

namespace PrivilegeCatalog.Console

variable {c : Char} {cs rest body more before name : List Char}

/-! ## Marks -/

/-- The characters that mean something in a text with markup. -/
def isMark (c : Char) : Bool := c == ':' || c == '[' || c == ']' || c == '\\'

/-- What a text is turned into: the text itself, or one with fewer marks. -/
structure Thins (before after : List Char) : Prop where
  le : after.countP isMark ≤ before.countP isMark
  same : after.countP isMark = before.countP isMark → after = before

theorem Thins.refl (cs : List Char) : Thins cs cs := ⟨Nat.le_refl _, fun _ => rfl⟩

theorem Thins.of_lt {a b : List Char} (less : b.countP isMark < a.countP isMark) : Thins a b :=
  ⟨Nat.le_of_lt less, fun same => absurd same (Nat.ne_of_lt less)⟩

theorem Thins.trans {a b c : List Char} (first : Thins a b) (second : Thins b c) : Thins a c := by
  refine ⟨Nat.le_trans second.le first.le, fun same => ?_⟩
  have bound := first.le
  have bound' := second.le
  rw [second.same (by omega), first.same (by omega)]

theorem Thins.append {a b a' b' : List Char} (first : Thins a a') (second : Thins b b') :
    Thins (a ++ b) (a' ++ b') := by
  have bound := first.le
  have bound' := second.le
  refine ⟨?_, fun same => ?_⟩
  · rw [List.countP_append, List.countP_append]
    omega
  · rw [List.countP_append, List.countP_append] at same
    rw [first.same (by omega), second.same (by omega)]

theorem Thins.cons (c : Char) {b b' : List Char} (second : Thins b b') :
    Thins (c :: b) (c :: b') :=
  Thins.append (.refl [c]) second

/-! ## Short names -/

theorem shortName?_eq_some (found : shortName? cs = some (name, more)) :
    cs = name ++ ':' :: more := by
  induction cs generalizing name with
  | nil => cases found
  | cons c rest ih =>
    rw [shortName?] at found
    split at found
    case isTrue colon =>
      cases found
      rw [eq_of_beq colon]
      rfl
    case isFalse =>
      split at found
      · cases found
      · obtain ⟨⟨name', more'⟩, found', same⟩ := Option.map_eq_some_iff.mp found
        cases same
        rw [ih found']
        rfl

theorem isMark_of_isPictographic (sign : isPictographic c = true) : isMark c = false := by
  rw [Bool.eq_false_iff]
  intro mark
  simp only [isMark, Bool.or_eq_true, beq_iff_eq] at mark
  rcases mark with ((rfl | rfl) | rfl) | rfl <;> exact absurd sign (by decide)

theorem marks_pictograph? (found : pictograph? name = some cs) : cs.countP isMark = 0 := by
  obtain ⟨-, signs⟩ := Option.filter_eq_some_iff.mp found
  refine List.countP_eq_zero.mpr fun c inside => ?_
  rw [isMark_of_isPictographic (List.all_eq_true.mp signs c inside)]
  exact Bool.false_ne_true

/-- No pictograph holds a mark, in any variant. -/
theorem marks_pictographOf? (found : pictographOf? name = some cs) : cs.countP isMark = 0 := by
  unfold pictographOf? at found
  dsimp only at found
  split at found
  case h_1 ending selector chosen =>
    rw [Option.map_eq_some_iff] at found
    obtain ⟨base, found, rfl⟩ := found
    have unmarkedBase : base.countP isMark = 0 := marks_pictograph? found
    have selects : (ending, selector) ∈ variants := List.mem_of_find?_eq_some chosen
    have unmarked : ∀ v ∈ variants, isMark v.2 = false := by decide
    rw [List.countP_append, unmarkedBase, List.countP_singleton, unmarked _ selects]
    rfl
  case h_2 => exact marks_pictograph? found

theorem thins_replaceNames (fuel : Nat) (cs : List Char) : Thins cs (replaceNames fuel cs) := by
  induction fuel generalizing cs with
  | zero => exact .refl cs
  | succ fuel ih =>
    cases cs with
    | nil => exact .refl []
    | cons c rest =>
      rw [replaceNames]
      split
      case h_2 => exact .cons c (ih rest)
      case h_1 name more found =>
        split at found
        case isFalse => cases found
        case isTrue colon =>
          rw [eq_of_beq colon, shortName?_eq_some found]
          cases picture : pictographOf? name with
          | none =>
            have same : ':' :: (name ++ ':' :: more) = ':' :: (name ++ [':']) ++ more := by simp
            rw [same]
            exact .append (.refl _) (ih more)
          | some cs =>
            have fewer := (ih more).le
            refine .of_lt ?_
            rw [Option.getD_some, List.countP_append, marks_pictographOf? picture]
            simp [isMark]
            omega

/-! ## Backslashes -/

theorem thins_unescapeBrackets (cs : List Char) : Thins cs (unescapeBrackets cs) := by
  fun_induction unescapeBrackets with
  | case1 rest ih =>
    refine .of_lt ?_
    have fewer := ih.le
    have bracket : isMark '[' = true := rfl
    have slash : isMark '\\' = true := rfl
    rw [List.countP_cons_of_pos bracket, List.countP_cons_of_pos slash,
      List.countP_cons_of_pos bracket]
    omega
  | case2 c rest _ ih => exact .cons c ih
  | case3 => exact .refl []

/-- A text keeps its backslashes when none of them stands before a bracket. -/
theorem unescapeBrackets_eq_iff : unescapeBrackets cs = cs ↔ ¬['\\', '['] <:+: cs := by
  fun_induction unescapeBrackets with
  | case1 rest ih =>
    refine iff_of_false (fun same => ?_) (not_not_intro ⟨[], rest, rfl⟩)
    exact absurd (List.cons.inj same).1 (by decide)
  | case2 c rest other ih =>
    rw [List.cons.injEq, and_iff_right rfl, ih, List.infix_cons_iff, not_or]
    refine (and_iff_right ?_).symm
    rintro ⟨more, same⟩
    exact other more (List.cons.inj same).1.symm (List.cons.inj same).2.symm
  | case3 => exact iff_of_true rfl (by simp)

/-! ## Tags -/

theorem thins_shown_plain (cs : List Char) : Thins cs (Piece.shown (.plain cs)) :=
  .trans (thins_unescapeBrackets cs) (thins_replaceNames _ _)

theorem thins_plainPiece (cs : List Char) : Thins cs ((plainPiece cs).flatMap Piece.shown) := by
  rw [flatMap_shown_plainPiece]
  exact thins_shown_plain cs

/-- A tag costs marks, whether it is shown or not. -/
theorem marks_escapedTag (backslashes : Nat) (body : List Char) :
    ((escapedTag backslashes body).flatMap Piece.shown).countP isMark
      < (List.replicate backslashes '\\' ++ '[' :: (body ++ [']'])).countP isMark := by
  have half := (thins_plainPiece (List.replicate (backslashes / 2) '\\')).le
  have slashes : ∀ n, (List.replicate n '\\').countP isMark = n := fun n => by
    have mark : isMark '\\' = true := rfl
    rw [List.countP_replicate, if_pos mark]
  have bracketed : ('[' :: (body ++ [']'])).countP isMark = body.countP isMark + 2 := by
    simp [isMark]
  rw [slashes] at half
  rw [escapedTag, List.flatMap_append, List.countP_append, List.countP_append, slashes, bracketed,
    List.flatMap_singleton]
  split
  case isTrue odd =>
    have kept := (thins_shown_plain ('[' :: (body ++ [']']))).le
    rw [bracketed] at kept
    omega
  case isFalse =>
    rw [Piece.shown, List.countP_nil]
    omega

theorem Tagless.cons (none_ : tag? (c :: rest) = none) (tagless : Tagless rest) :
    Tagless (c :: rest) := by
  intro after part
  rcases List.suffix_cons_iff.mp part with rfl | within
  · exact none_
  · exact tagless after within

/-- Backslashes before a text make no tag of it. -/
theorem tagless_of_dropWhile (tagless : Tagless (cs.dropWhile (· == '\\'))) : Tagless cs := by
  induction cs with
  | nil => exact tagless
  | cons c rest ih =>
    by_cases slash : c = '\\'
    · subst slash
      exact .cons (tag?_of_ne (by decide)) (ih tagless)
    · rwa [List.dropWhile_cons_of_neg (by simpa using slash)] at tagless

/-- A text with a tag, maybe after backslashes, loses marks, whatever becomes of the rest. -/
theorem marks_of_tag {ps : List Piece}
    (found : tag? (cs.dropWhile (· == '\\')) = some (body, more))
    (others : Thins more (ps.flatMap Piece.shown)) :
    ((plainPiece before.reverse ++ escapedTag (cs.takeWhile (· == '\\')).length body
        ++ ps).flatMap Piece.shown).countP isMark
      < (before.reverse ++ cs).countP isMark := by
  have first := (thins_plainPiece before.reverse).le
  have tag := marks_escapedTag (cs.takeWhile (· == '\\')).length body
  have rest := others.le
  have parts : cs = cs.takeWhile (· == '\\') ++ '[' :: (body ++ ']' :: more) := by
    rw [← (tag?_eq_some.mp found).1, List.takeWhile_append_dropWhile]
  have bracketed : '[' :: (body ++ ']' :: more) = '[' :: (body ++ [']']) ++ more := by simp
  rw [backslashes_eq, bracketed, ← List.append_assoc] at parts
  have whole := congrArg (List.countP isMark) parts
  rw [List.countP_append] at whole
  rw [List.flatMap_append, List.flatMap_append, List.countP_append, List.countP_append,
    List.countP_append, whole]
  omega

/-- What is shown of a text, apart from its tags, is the text or has fewer marks. -/
theorem thins_piecesFrom (n : Nat) (before cs : List Char) :
    Thins (before.reverse ++ cs) ((piecesFrom n before cs).flatMap Piece.shown) := by
  induction n generalizing before cs with
  | zero => exact thins_plainPiece _
  | succ n ih =>
    cases cs with
    | nil =>
      rw [List.append_nil]
      exact thins_plainPiece _
    | cons c rest =>
      rw [piecesFrom]
      split
      case h_1 body more found => exact .of_lt (marks_of_tag found (ih [] more))
      case h_2 =>
        split
        case isTrue =>
          have later := ih (c :: before) rest
          rwa [List.reverse_cons, List.append_assoc] at later
        case isFalse =>
          have later := ih ((c :: rest).takeWhile (· == '\\') ++ before)
            ((c :: rest).dropWhile (· == '\\'))
          rwa [List.reverse_append, List.append_assoc, reverse_backslashes,
            List.takeWhile_append_dropWhile] at later

/-- A text that is shown as it is, apart from its tags, has none. -/
theorem tagless_of_marks {n : Nat} (enough : cs.length < n)
    (same : ((piecesFrom n before cs).flatMap Piece.shown).countP isMark
      = (before.reverse ++ cs).countP isMark) : Tagless cs := by
  induction n generalizing before cs with
  | zero => exact absurd enough (Nat.not_lt_zero _)
  | succ n ih =>
    cases cs with
    | nil => exact tagless_of_no_bracket List.not_mem_nil
    | cons c rest =>
      rw [List.length_cons] at enough
      rw [piecesFrom] at same
      split at same
      case h_1 body more found =>
        have less : _ < (before.reverse ++ c :: rest).countP isMark :=
          marks_of_tag found (thins_piecesFrom n [] more)
        exact absurd same (Nat.ne_of_lt less)
      case h_2 none_ =>
        split at same
        case isTrue plain =>
          have tagless : Tagless rest := by
            refine @ih rest (c :: before) (by omega) ?_
            rw [same, List.reverse_cons, List.append_assoc]
            rfl
          by_cases slash : c = '\\'
          · exact tagless.cons
              (tag?_of_ne fun open_ => absurd (slash.symm.trans open_) (by decide))
          · rw [List.dropWhile_cons_of_neg (by simpa using slash)] at none_
            exact tagless.cons none_
        case isFalse some_ =>
          have less := length_dropWhile_lt some_
          rw [List.length_cons] at less
          refine tagless_of_dropWhile
            (@ih _ ((c :: rest).takeWhile (· == '\\') ++ before) (by omega) ?_)
          rw [same, List.reverse_append, List.append_assoc, reverse_backslashes,
            List.takeWhile_append_dropWhile]

/-- The pieces of a text that are no tags make up the text when nothing in it means anything. -/
theorem flatMap_shown_eq_iff :
    (pieces cs).flatMap Piece.shown = cs
      ↔ Tagless cs ∧ unescapeBrackets cs = cs ∧ withPictographs cs = cs := by
  constructor
  · intro same
    have tagless : Tagless cs :=
      @tagless_of_marks _ [] _ (Nat.lt_succ_self _) (congrArg (List.countP isMark) same)
    rw [pieces_tagless tagless, flatMap_shown_plainPiece] at same
    -- neither step takes a mark away
    have first := thins_unescapeBrackets cs
    have second := thins_replaceNames (unescapeBrackets cs).length (unescapeBrackets cs)
    have marks : (withPictographs (unescapeBrackets cs)).countP isMark = cs.countP isMark := by
      rw [same]
    rw [withPictographs] at marks
    have bound := first.le
    have bound' := second.le
    have unescaped : unescapeBrackets cs = cs := first.same (by omega)
    rw [unescaped] at same
    exact ⟨tagless, unescaped, same⟩
  · rintro ⟨tagless, unescaped, unnamed⟩
    rw [pieces_tagless tagless, flatMap_shown_plainPiece, unescaped, unnamed]

/-- The same for a text after a blank. -/
theorem flatMap_shown_blank_iff :
    (pieces (' ' :: cs)).flatMap Piece.shown = ' ' :: cs
      ↔ Tagless cs ∧ ¬['\\', '['] <:+: cs ∧ withPictographs cs = cs := by
  have tagless : Tagless (' ' :: cs) ↔ Tagless cs :=
    ⟨fun whole => whole.suffix (List.suffix_cons _ _), .cons rfl⟩
  have unescaped : unescapeBrackets (' ' :: cs) = ' ' :: cs ↔ ¬['\\', '['] <:+: cs := by
    rw [unescapeBrackets_eq_iff, List.infix_cons_iff, not_or, and_iff_right]
    rintro ⟨more, same⟩
    exact absurd (List.cons.inj same).1 (by decide)
  have unnamed : withPictographs (' ' :: cs) = ' ' :: withPictographs cs := rfl
  rw [flatMap_shown_eq_iff, tagless, unescaped, unnamed, List.cons.injEq, and_iff_right rfl]

/-! ## Lines -/

theorem piecesBy_eq_splitOn (a : Char) (cs : List Char) :
    Text.piecesBy (· == a) cs = cs.splitOn a := by
  induction cs with
  | nil => rfl
  | cons x rest ih =>
    rw [Text.piecesBy, List.splitOn_cons_eq_if_modifyHead, ih]
    split
    · rfl
    · cases pieces_ : rest.splitOn a with
      | nil => exact absurd pieces_ (List.splitOn_ne_nil a rest)
      | cons piece others => rfl

/-- A line holds no line feed, and what it holds is in the text. -/
theorem mem_splitOn {a : Char} {line : List Char} (inside : line ∈ cs.splitOn a) :
    a ∉ line ∧ ∀ c ∈ line, c ∈ cs := by
  induction cs generalizing line with
  | nil =>
    rw [List.splitOn_nil, List.mem_singleton] at inside
    rw [inside]
    exact ⟨List.not_mem_nil, List.forall_mem_nil _⟩
  | cons x rest ih =>
    rw [List.splitOn_cons_eq_if_modifyHead] at inside
    split at inside
    case isTrue =>
      rcases List.mem_cons.mp inside with rfl | inside
      · exact ⟨List.not_mem_nil, List.forall_mem_nil _⟩
      · exact ⟨(ih inside).1, fun c within => List.mem_cons_of_mem x ((ih inside).2 c within)⟩
    case isFalse other =>
      cases pieces_ : rest.splitOn a with
      | nil => exact absurd pieces_ (List.splitOn_ne_nil a rest)
      | cons piece others =>
        rw [pieces_] at ih inside
        rcases List.mem_cons.mp inside with rfl | inside
        · obtain ⟨clean, within⟩ := ih List.mem_cons_self
          refine ⟨?_, List.forall_mem_cons.mpr ⟨List.mem_cons_self, fun c here =>
            List.mem_cons_of_mem x (within c here)⟩⟩
          rw [List.mem_cons, not_or]
          exact ⟨fun same => other (beq_iff_eq.mpr same.symm), clean⟩
        · obtain ⟨clean, within⟩ := ih (List.mem_cons_of_mem piece inside)
          exact ⟨clean, fun c here => List.mem_cons_of_mem x (within c here)⟩

variable {sep : List Char} {ls : List (List Char)}

theorem forall_mem_intercalate {P : Char → Prop} (inSep : ∀ c ∈ sep, P c)
    (inLines : ∀ l ∈ ls, ∀ c ∈ l, P c) : ∀ c ∈ sep.intercalate ls, P c := by
  induction ls with
  | nil => exact List.forall_mem_nil _
  | cons first others ih =>
    obtain ⟨inFirst, inOthers⟩ := List.forall_mem_cons.mp inLines
    cases others with
    | nil =>
      rw [List.intercalate_singleton]
      exact inFirst
    | cons second others =>
      rw [List.intercalate_cons_cons, List.forall_mem_append, List.forall_mem_append]
      exact ⟨⟨inFirst, inSep⟩, ih inOthers⟩

theorem marks_intercalate_le {f : List Char → List Char}
    (fewer : ∀ l, (f l).countP isMark ≤ l.countP isMark) :
    (sep.intercalate (ls.map f)).countP isMark ≤ (sep.intercalate ls).countP isMark := by
  induction ls with
  | nil => exact Nat.le_refl _
  | cons first others ih =>
    cases others with
    | nil =>
      rw [List.map_singleton, List.intercalate_singleton, List.intercalate_singleton]
      exact fewer first
    | cons second others =>
      have bound := fewer first
      rw [List.map_cons] at ih
      rw [List.map_cons, List.map_cons, List.intercalate_cons_cons, List.intercalate_cons_cons]
      simp only [List.countP_append]
      omega

theorem mem_expandTabs {stop column : Nat} :
    ∀ c ∈ expandTabs stop column cs, c ≠ '\t' ∧ (c ∈ cs ∨ c = ' ') := by
  induction cs generalizing column with
  | nil => exact List.forall_mem_nil _
  | cons x rest ih =>
    intro c inside
    have later : ∀ {column}, c ∈ expandTabs stop column rest →
        c ≠ '\t' ∧ (c ∈ x :: rest ∨ c = ' ') := fun inside =>
      ⟨(ih c inside).1, (ih c inside).2.imp_left (List.mem_cons_of_mem x)⟩
    rw [expandTabs] at inside
    split at inside
    case isTrue =>
      rcases List.mem_append.mp inside with blank | inside
      · rw [List.eq_of_mem_replicate blank]
        exact ⟨by decide, .inr rfl⟩
      · exact later inside
    case isFalse other =>
      rcases List.mem_cons.mp inside with rfl | inside
      · exact ⟨by simpa using other, .inl List.mem_cons_self⟩
      · exact later inside

theorem marks_expandTabs_le (stop column : Nat) (cs : List Char) :
    (expandTabs stop column cs).countP isMark ≤ cs.countP isMark := by
  induction cs generalizing column with
  | nil => exact Nat.le_refl _
  | cons x rest ih =>
    have blank : isMark ' ' ≠ true := by decide
    rw [expandTabs]
    split
    · rw [List.countP_append, List.countP_replicate, if_neg blank, Nat.zero_add]
      exact Nat.le_trans (ih _) (List.Sublist.countP_le (List.sublist_cons_self x rest))
    · rw [List.countP_cons, List.countP_cons]
      exact Nat.add_le_add_right (ih _) _

theorem expandTabs_of_not_mem {stop column : Nat} (untabbed : '\t' ∉ cs) :
    expandTabs stop column cs = cs := by
  induction cs generalizing column with
  | nil => rfl
  | cons x rest ih =>
    rw [List.mem_cons, not_or] at untabbed
    obtain ⟨other, untabbed⟩ := untabbed
    rw [expandTabs, if_neg (by simpa using Ne.symm other), ih untabbed]

theorem cutBlanks_isPrefix (columns : Nat) (cs : List Char) : cutBlanks columns cs <+: cs :=
  List.take_prefix _ _

/-- A line is not cut when it has no more than so many characters, or does not end in a blank. -/
theorem cutBlanks_eq_iff {columns : Nat} :
    cutBlanks columns cs = cs
      ↔ cs.length ≤ columns ∨ ∀ c ∈ cs.getLast?, Text.isBlank c = false := by
  have bound : (cs.reverse.takeWhile Text.isBlank).length ≤ cs.length := by
    rw [← @List.length_reverse _ cs]
    exact List.IsPrefix.length_le (List.takeWhile_prefix _)
  have none_ : (cs.reverse.takeWhile Text.isBlank).length = 0
      ↔ ∀ c ∈ cs.getLast?, Text.isBlank c = false := by
    rw [List.length_eq_zero_iff, ← List.head?_reverse]
    cases cs.reverse with
    | nil => simp
    | cons c rest => simp [List.takeWhile_cons]
  have whole : cutBlanks columns cs = cs ↔ cs.length
      ≤ cs.length - min (cs.reverse.takeWhile Text.isBlank).length (cs.length - columns) := by
    refine ⟨fun same => ?_, List.take_of_length_le⟩
    have length := congrArg List.length same
    rw [cutBlanks, List.length_take] at length
    omega
  rw [whole, ← none_]
  omega

/-- A text whose lines are not cut in so many columns. -/
def Fits (columns : Nat) (cs : List Char) : Prop :=
  ∀ line ∈ cs.splitOn '\n', line.length ≤ columns ∨ ∀ c ∈ line.getLast?, Text.isBlank c = false

theorem toList_unwrapped (columns : Nat) (text : String) :
    (unwrapped columns text).toList
      = ['\n'].intercalate ((text.toList.splitOn '\n').map fun line =>
      cutBlanks columns (expandTabs tabStop 0 line)) := by
  have feed : "\n".toList = ['\n'] := by simp
  rw [unwrapped, stacked, String.toList_intercalate, feed, linesOf, piecesBy_eq_splitOn,
    List.map_map, List.map_map, List.map_map]
  congr 2
  funext line
  exact String.toList_ofList

theorem mem_unwrapped {columns : Nat} {text : String} :
    ∀ c ∈ (unwrapped columns text).toList, c ≠ '\t' ∧ (c ∈ text.toList ∨ c = ' ' ∨ c = '\n') := by
  rw [toList_unwrapped]
  refine forall_mem_intercalate ?_ ?_
  · intro c feed
    rw [List.mem_singleton.mp feed]
    exact ⟨by decide, .inr (.inr rfl)⟩
  · intro line inside c within
    obtain ⟨line, piece, rfl⟩ := List.mem_map.mp inside
    obtain ⟨untabbed, origin⟩ := mem_expandTabs c ((cutBlanks_isPrefix _ _).subset within)
    refine ⟨untabbed, ?_⟩
    rcases origin with origin | blank
    · exact .inl ((mem_splitOn piece).2 c origin)
    · exact .inr (.inl blank)

theorem marks_unwrapped_le (columns : Nat) (text : String) :
    (unwrapped columns text).toList.countP isMark ≤ text.toList.countP isMark := by
  rw [toList_unwrapped]
  have whole : ['\n'].intercalate (text.toList.splitOn '\n') = text.toList :=
    List.intercalate_splitOn '\n'
  rw [← congrArg (List.countP isMark) whole]
  refine marks_intercalate_le fun line => ?_
  exact Nat.le_trans (cutBlanks_isPrefix _ _).sublist.countP_le (marks_expandTabs_le _ _ _)

/-- A text without tabs is laid out as it is when its lines are not cut. -/
theorem unwrapped_eq_iff {columns : Nat} {text : String} (untabbed : '\t' ∉ text.toList) :
    unwrapped columns text = text ↔ Fits columns text.toList := by
  have cut : (unwrapped columns text).toList
      = ['\n'].intercalate ((text.toList.splitOn '\n').map (cutBlanks columns)) := by
    rw [toList_unwrapped]
    refine congrArg _ (List.map_congr_left fun line piece => ?_)
    rw [expandTabs_of_not_mem fun tab => untabbed ((mem_splitOn piece).2 _ tab)]
  have clean : ∀ line ∈ (text.toList.splitOn '\n').map (cutBlanks columns), '\n' ∉ line := by
    intro line inside feed
    obtain ⟨line, piece, rfl⟩ := List.mem_map.mp inside
    exact (mem_splitOn piece).1 ((cutBlanks_isPrefix columns line).subset feed)
  have some_ : (text.toList.splitOn '\n').map (cutBlanks columns) ≠ [] := by
    rw [Ne, List.map_eq_nil_iff]
    exact List.splitOn_ne_nil _ _
  have uncut : (text.toList.splitOn '\n').map (cutBlanks columns) = text.toList.splitOn '\n'
      ↔ Fits columns text.toList := by
    have self : (text.toList.splitOn '\n').map (cutBlanks columns) = text.toList.splitOn '\n'
        ↔ (text.toList.splitOn '\n').map (cutBlanks columns)
          = (text.toList.splitOn '\n').map id := by
      rw [List.map_id]
    rw [self, List.map_eq_map_iff]
    exact forall₂_congr fun line _ => cutBlanks_eq_iff
  rw [← uncut, ← String.toList_inj, cut]
  constructor
  · intro same
    rw [← List.splitOn_intercalate '\n' clean some_, same]
  · intro same
    rw [same, List.intercalate_splitOn]

/-! ## Texts -/

/-- A text that is shown as it is: it holds no tag, no backslash before a bracket, no short name
of a pictograph, no tab, and no control that is left out. -/
structure Verbatim (cs : List Char) : Prop where
  tagless : Tagless cs
  unescaped : ¬['\\', '['] <:+: cs
  unnamed : withPictographs cs = cs
  controls : ∀ c ∈ cs, isStripped c = false
  tabs : '\t' ∉ cs

end PrivilegeCatalog.Console
