import Mathlib.Data.List.InsertIdx
import Mathlib.Data.List.TakeWhile
import PrivilegeCatalog.Proofs.Console.Closing

/-!
# The tags of a text

A text with markup is shown exactly when it is well closed: its tags keep the rules, so that each
which closes another closes one that is open, and the styles that are looked up can be
(`shown_isOk`). Then the pieces of it that are no tags are shown one after the other (`shown_eq`).
The tags of a text do not depend on what stands around it, as long as that holds no brackets of
its own (`tags_lead`, `tags_tail`), and its styles depend on its tags alone (`styles_spans`).
-/

namespace PrivilegeCatalog.Console

/-- The tag that a piece is. -/
def Piece.body? : Piece → Option (List Char)
  | plain _ => none
  | tag body => some body

/-- What is shown of a piece, under any style. -/
def Piece.shown : Piece → List Char
  | plain cs => withPictographs (unescapeBrackets cs)
  | tag _ => []

/-- The tags of a text, in order. -/
def tags (cs : List Char) : List (List Char) := (pieces cs).filterMap Piece.body?

/-- What is shown of a text when its tags are left out. -/
def visible (text : String) : String :=
  String.ofList (((pieces text.toList).flatMap Piece.shown).filter (!isStripped ·))

/-- The tags of a text keep the rules, and the styles can be looked up of all stretches that are
drawn. -/
def WellClosed (text : String) (evaluates : List Char → Bool := isLiteral)
    (isDrawn : String → Span → Bool := fun _ _ => true) : Prop :=
  Closes evaluates [] (tags text.toList)
    ∧ ∀ span ∈ spans text, isDrawn (visible text) span = true → canLookUp span.style = true

instance (text : String) (evaluates : List Char → Bool) (isDrawn : String → Span → Bool) :
    Decidable (WellClosed text evaluates isDrawn) :=
  decidable_of_iff (((tags text.toList).foldlM (afterTag evaluates) []).isOk = true
    ∧ ∀ span ∈ spans text, isDrawn (visible text) span = true → canLookUp span.style = true)
    (and_congr_left' foldlM_afterTag_isOk)

variable {c : Char} {cs rest body more before lead tail : List Char}

/-! ## One tag -/

theorem tagEnd?_eq_some :
    tagEnd? cs = some (body, more)
      ↔ (∀ x ∈ body, x ≠ '[' ∧ x ≠ ']') ∧ cs = body ++ ']' :: more := by
  induction cs generalizing body with
  | nil => simp [tagEnd?]
  | cons c rest ih =>
    rw [tagEnd?]
    by_cases close : c = ']'
    · subst close
      rw [if_pos (beq_self_eq_true _), Option.some.injEq, Prod.mk.injEq]
      constructor
      · rintro ⟨rfl, rfl⟩
        exact ⟨nofun, rfl⟩
      · rintro ⟨clean, same⟩
        cases body with
        | nil => exact ⟨rfl, (List.cons.inj same).2⟩
        | cons x body => exact absurd (List.cons.inj same).1.symm (clean x List.mem_cons_self).2
    · rw [if_neg (by simpa using close)]
      by_cases opens : c = '['
      · subst opens
        rw [if_pos (beq_self_eq_true _)]
        refine ⟨nofun, fun ⟨clean, same⟩ => ?_⟩
        cases body with
        | nil => exact absurd (List.cons.inj same).1 close
        | cons x body => exact absurd (List.cons.inj same).1.symm (clean x List.mem_cons_self).1
      · rw [if_neg (by simpa using opens), Option.map_eq_some_iff]
        constructor
        · rintro ⟨⟨body', more'⟩, found, same⟩
          cases same
          obtain ⟨clean, rfl⟩ := ih.mp found
          exact ⟨List.forall_mem_cons.mpr ⟨⟨opens, close⟩, clean⟩, rfl⟩
        · rintro ⟨clean, same⟩
          cases body with
          | nil => exact absurd (List.cons.inj same).1 close
          | cons x body =>
            obtain ⟨rfl, rfl⟩ := List.cons.inj same
            exact ⟨(body, more), ih.mpr ⟨(List.forall_mem_cons.mp clean).2, rfl⟩, rfl⟩

/-- A tag is a bracket, a character that tags start with, and the text up to the closing
bracket. -/
theorem tag?_eq_some :
    tag? cs = some (body, more) ↔ cs = '[' :: (body ++ ']' :: more)
      ∧ ∃ c name, body = c :: name ∧ startsTag c = true ∧ ∀ x ∈ name, x ≠ '[' ∧ x ≠ ']' := by
  constructor
  · intro found
    unfold tag? at found
    split at found
    case h_2 => cases found
    case h_1 c rest =>
      split at found
      case isFalse => cases found
      case isTrue starts =>
        obtain ⟨⟨name, more'⟩, ended, same⟩ := Option.map_eq_some_iff.mp found
        cases same
        obtain ⟨clean, rfl⟩ := tagEnd?_eq_some.mp ended
        exact ⟨rfl, c, name, rfl, starts, clean⟩
  · rintro ⟨rfl, c, name, rfl, starts, clean⟩
    have ended : tagEnd? (name ++ ']' :: more) = some (name, more) :=
      tagEnd?_eq_some.mpr ⟨clean, rfl⟩
    rw [List.cons_append, tag?, if_pos starts, ended]
    rfl

theorem startsTag_ne_bracket (starts : startsTag c = true) : c ≠ '[' ∧ c ≠ ']' := by
  constructor <;> rintro rfl <;> exact absurd starts (by decide)

theorem tag?_of_ne (other : c ≠ '[') : tag? (c :: rest) = none := by
  unfold tag?
  split
  case h_1 same => exact absurd (List.cons.inj same).1 other
  case h_2 => rfl

/-- Without a closing bracket there is no tag. -/
theorem tag?_eq_none (open_ : ']' ∉ cs) : tag? cs = none := by
  rw [Option.eq_none_iff_forall_ne_some]
  rintro ⟨body, more⟩ found
  rw [(tag?_eq_some.mp found).1] at open_
  simp at open_

/-- What stands after a text, without a closing bracket, makes no tag of it. -/
theorem tag?_append (open_ : ']' ∉ tail) :
    tag? (cs ++ tail) = (tag? cs).map fun (body, more) => (body, more ++ tail) := by
  cases found : tag? cs with
  | some parts =>
    obtain ⟨body, more⟩ := parts
    obtain ⟨rfl, made⟩ := tag?_eq_some.mp found
    have longer : '[' :: (body ++ ']' :: more) ++ tail
        = '[' :: (body ++ ']' :: (more ++ tail)) := by
      simp
    exact tag?_eq_some.mpr ⟨longer, made⟩
  | none =>
    rw [Option.map_none, Option.eq_none_iff_forall_ne_some]
    rintro ⟨body, more⟩ found'
    obtain ⟨same, c, name, rfl, made⟩ := tag?_eq_some.mp found'
    -- the closing bracket stands in the text itself
    rw [← List.cons_append, List.append_eq_append_iff] at same
    rcases same with ⟨between, rest, after⟩ | ⟨between, rest, after⟩
    · have inside : ']' ∈ tail := by
        rw [after]
        exact List.mem_append_right _ List.mem_cons_self
      exact open_ inside
    · cases between with
      | nil =>
        rw [List.nil_append] at after
        exact open_ (after ▸ List.mem_cons_self)
      | cons x between =>
        obtain ⟨rfl, rfl⟩ := List.cons.inj after
        have found' : tag? cs = some (c :: name, between) :=
          tag?_eq_some.mpr ⟨rest, c, name, rfl, made⟩
        rw [found] at found'
        cases found'

/-! ## The pieces of a text -/

/-- Whether nothing in a text is a tag. -/
def Tagless (cs : List Char) : Prop := ∀ after, after <:+ cs → tag? after = none

theorem Tagless.suffix (tagless : Tagless cs) (part : rest <:+ cs) : Tagless rest :=
  fun after within => tagless after (within.trans part)

theorem tagless_of_not_mem (open_ : ']' ∉ cs) : Tagless cs :=
  fun _ part => tag?_eq_none fun inside => open_ (part.subset inside)

theorem tagless_of_no_bracket (closed : '[' ∉ cs) : Tagless cs := by
  intro after part
  cases after with
  | nil => rfl
  | cons c rest =>
    refine tag?_of_ne ?_
    rintro rfl
    exact closed (part.subset List.mem_cons_self)

theorem length_dropWhile_le (p : Char → Bool) (cs : List Char) :
    (cs.dropWhile p).length ≤ cs.length :=
  (List.dropWhile_suffix p).length_le

theorem length_dropWhile_lt {p : Char → Bool} (some_ : ¬(cs.takeWhile p).isEmpty = true) :
    (cs.dropWhile p).length < cs.length := by
  have whole := congrArg List.length (List.takeWhile_append_dropWhile (p := p) (l := cs))
  have taken := List.length_pos_iff.mpr fun none => some_ (List.isEmpty_iff.mpr none)
  rw [List.length_append] at whole
  omega

theorem backslashes_eq (cs : List Char) :
    cs.takeWhile (· == '\\') = List.replicate (cs.takeWhile (· == '\\')).length '\\' := by
  refine List.eq_replicate_of_mem fun c inside => ?_
  simpa using List.all_eq_true.mp List.all_takeWhile c inside

/-- Leading backslashes are the same forwards and backwards. -/
theorem reverse_backslashes (cs : List Char) :
    (cs.takeWhile (· == '\\')).reverse = cs.takeWhile (· == '\\') := by
  rw [backslashes_eq, List.reverse_replicate]

/-- What follows a tag is shorter than the text that the tag starts. -/
theorem length_of_tag? (found : tag? cs = some (body, more)) : more.length < cs.length := by
  rw [(tag?_eq_some.mp found).1]
  simp only [List.length_cons, List.length_append]
  omega

theorem piecesFrom_nil (n : Nat) : piecesFrom n before [] = plainPiece before.reverse := by
  cases n with
  | zero => exact congrArg plainPiece (List.append_nil _)
  | succ n => rfl

/-- Before a tag there may be backslashes, which say whether it is one. -/
theorem piecesFrom_some (n : Nat)
    (found : tag? ((c :: rest).dropWhile (· == '\\')) = some (body, more)) :
    piecesFrom (n + 1) before (c :: rest) = plainPiece before.reverse
      ++ escapedTag ((c :: rest).takeWhile (· == '\\')).length body ++ piecesFrom n [] more := by
  rw [piecesFrom, found]

/-- Without a tag the first character is plain, or all backslashes in front are. -/
theorem piecesFrom_none (n : Nat) (none_ : tag? ((c :: rest).dropWhile (· == '\\')) = none) :
    piecesFrom (n + 1) before (c :: rest) =
      if ((c :: rest).takeWhile (· == '\\')).isEmpty then piecesFrom n (c :: before) rest
      else piecesFrom n ((c :: rest).takeWhile (· == '\\') ++ before)
        ((c :: rest).dropWhile (· == '\\')) := by
  rw [piecesFrom, none_]

/-- The pieces of a text are the same with any fuel that suffices. -/
theorem piecesFrom_fuel {m n : Nat} (enough : cs.length < m) (enough' : cs.length < n) :
    piecesFrom m before cs = piecesFrom n before cs := by
  induction m generalizing n before cs with
  | zero => exact absurd enough (Nat.not_lt_zero _)
  | succ m ih =>
    obtain ⟨n, rfl⟩ := Nat.exists_eq_add_one_of_ne_zero (Nat.ne_zero_of_lt enough')
    cases cs with
    | nil => rfl
    | cons c rest =>
      have shorter := length_dropWhile_le (· == '\\') (c :: rest)
      rw [List.length_cons] at enough enough' shorter
      cases found : tag? ((c :: rest).dropWhile (· == '\\')) with
      | some parts =>
        have less := length_of_tag? found
        rw [piecesFrom_some m found, piecesFrom_some n found, ih (n := n) (by omega) (by omega)]
      | none =>
        rw [piecesFrom_none m found, piecesFrom_none n found]
        split
        case isTrue => exact ih (by omega) (by omega)
        case isFalse some_ =>
          have less := length_dropWhile_lt some_
          rw [List.length_cons] at less
          exact ih (by omega) (by omega)

/-- A text without tags is one piece. -/
theorem piecesFrom_tagless {n : Nat} (tagless : Tagless cs) :
    piecesFrom n before cs = plainPiece (before.reverse ++ cs) := by
  induction n generalizing before cs with
  | zero => rfl
  | succ n ih =>
    cases cs with
    | nil => rw [piecesFrom_nil, List.append_nil]
    | cons c rest =>
      have dropped := List.dropWhile_suffix (· == '\\') (l := c :: rest)
      rw [piecesFrom_none n (tagless _ dropped)]
      split
      · rw [ih (tagless.suffix (List.suffix_cons c rest)), List.reverse_cons, List.append_assoc]
        rfl
      · rw [ih (tagless.suffix dropped), List.reverse_append, List.append_assoc,
          reverse_backslashes, List.takeWhile_append_dropWhile]

/-- A tag ends the plain text before it. -/
theorem piecesFrom_tag {n : Nat} (found : tag? cs = some (body, more)) :
    piecesFrom (n + 1) before cs
      = plainPiece before.reverse ++ .tag body :: piecesFrom n [] more := by
  obtain ⟨rfl, made⟩ := tag?_eq_some.mp found
  have first : tag? (('[' :: (body ++ ']' :: more)).dropWhile (· == '\\'))
      = some (body, more) := by
    rw [List.dropWhile_cons_of_neg (by simp), found]
  rw [piecesFrom_some n first, List.takeWhile_cons_of_neg (by simp)]
  simp [escapedTag, plainPiece]

/-- Plain text without brackets and backslashes. -/
theorem piecesFrom_lead {n : Nat} (plain : ∀ x ∈ lead, x ≠ '[' ∧ x ≠ '\\') :
    piecesFrom (lead.length + n) before (lead ++ cs)
      = piecesFrom n (lead.reverse ++ before) cs := by
  induction lead generalizing before with
  | nil => rw [List.length_nil, Nat.zero_add, List.nil_append, List.reverse_nil, List.nil_append]
  | cons x lead ih =>
    obtain ⟨⟨opens, slash⟩, others⟩ := List.forall_mem_cons.mp plain
    have noTag : tag? ((x :: (lead ++ cs)).dropWhile (· == '\\')) = none := by
      rw [List.dropWhile_cons_of_neg (by simpa using slash), tag?_of_ne opens]
    rw [List.length_cons, Nat.add_right_comm, List.cons_append, piecesFrom_none _ noTag,
      List.takeWhile_cons_of_neg (by simpa using slash), if_pos List.isEmpty_nil, ih others,
      List.reverse_cons, List.append_assoc]
    rfl

/-- The pieces of plain text with a tag after it. -/
theorem pieces_lead_tag (plain : ∀ x ∈ lead, x ≠ '[' ∧ x ≠ '\\')
    (found : tag? cs = some (body, more)) :
    pieces (lead ++ cs) = plainPiece lead ++ .tag body :: pieces more := by
  have less := length_of_tag? found
  rw [pieces, List.length_append, Nat.add_assoc, piecesFrom_lead plain, piecesFrom_tag found,
    List.append_nil, List.reverse_reverse, pieces, piecesFrom_fuel less (Nat.lt_succ_self _)]

theorem pieces_tagless (tagless : Tagless cs) : pieces cs = plainPiece cs :=
  piecesFrom_tagless tagless

/-! ## The tags of a text -/

theorem body?_plainPiece (cs : List Char) : (plainPiece cs).filterMap Piece.body? = [] := by
  unfold plainPiece
  split <;> rfl

theorem tags_tagless (tagless : Tagless cs) : tags cs = [] := by
  rw [tags, pieces_tagless tagless, body?_plainPiece]

theorem body?_piecesFrom (n : Nat) (before before' cs : List Char) :
    (piecesFrom n before cs).filterMap Piece.body?
      = (piecesFrom n before' cs).filterMap Piece.body? := by
  induction n generalizing before before' cs with
  | zero => exact (body?_plainPiece _).trans (body?_plainPiece _).symm
  | succ n ih =>
    cases cs with
    | nil => rw [piecesFrom_nil, piecesFrom_nil, body?_plainPiece, body?_plainPiece]
    | cons c rest =>
      cases found : tag? ((c :: rest).dropWhile (· == '\\')) with
      | some parts =>
        rw [piecesFrom_some n found, piecesFrom_some n found]
        simp only [List.filterMap_append, body?_plainPiece]
      | none =>
        rw [piecesFrom_none n found, piecesFrom_none n found]
        split <;> exact ih ..

/-- The tags of a text are found after any plain text, with any fuel that suffices. -/
theorem tags_eq {n : Nat} (enough : cs.length < n) :
    (piecesFrom n before cs).filterMap Piece.body? = tags cs := by
  rw [tags, pieces, piecesFrom_fuel (Nat.lt_succ_self _) enough, body?_piecesFrom n before []]

/-- Plain text before a text leaves its tags. -/
theorem tags_lead (plain : ∀ x ∈ lead, x ≠ '[' ∧ x ≠ '\\') : tags (lead ++ cs) = tags cs := by
  rw [tags, pieces, List.length_append, Nat.add_assoc, piecesFrom_lead plain,
    tags_eq (Nat.lt_succ_self _)]

/-- The tags of a text that starts with a tag, maybe after backslashes. -/
theorem tags_cons_tag (found : tag? ((c :: rest).dropWhile (· == '\\')) = some (body, more)) :
    tags (c :: rest)
      = (escapedTag ((c :: rest).takeWhile (· == '\\')).length body).filterMap Piece.body?
        ++ tags more := by
  have less := Nat.lt_of_lt_of_le (length_of_tag? found) (length_dropWhile_le _ _)
  rw [tags, pieces, piecesFrom_some _ found, List.filterMap_append, List.filterMap_append,
    body?_plainPiece, tags_eq less, List.nil_append]

/-- The tags of a text that does not start with one are those of what follows its first character
or its first backslashes. -/
theorem tags_cons (none_ : tag? ((c :: rest).dropWhile (· == '\\')) = none) :
    tags (c :: rest) = tags (if ((c :: rest).takeWhile (· == '\\')).isEmpty then rest
      else (c :: rest).dropWhile (· == '\\')) := by
  rw [tags, pieces, piecesFrom_none _ none_]
  split
  case isTrue => exact tags_eq (Nat.lt_succ_self _)
  case isFalse some_ => rw [tags_eq (length_dropWhile_lt some_)]

/-- Text after something else than backslashes leaves the backslashes before that. -/
theorem backslashes_append (others : cs.dropWhile (· == '\\') ≠ []) (tail : List Char) :
    (cs ++ tail).takeWhile (· == '\\') = cs.takeWhile (· == '\\')
      ∧ (cs ++ tail).dropWhile (· == '\\') = cs.dropWhile (· == '\\') ++ tail := by
  have dropped : (cs ++ tail).dropWhile (· == '\\') = cs.dropWhile (· == '\\') ++ tail := by
    rw [List.dropWhile_append, if_neg (by simpa using others)]
  refine ⟨?_, dropped⟩
  rw [← List.append_left_inj ((cs ++ tail).dropWhile (· == '\\')),
    List.takeWhile_append_dropWhile, dropped, ← List.append_assoc,
    List.takeWhile_append_dropWhile]

/-- Text without closing brackets after a text leaves its tags. -/
theorem tags_tail (open_ : ']' ∉ tail) : tags (cs ++ tail) = tags cs := by
  induction length : cs.length using Nat.strongRecOn generalizing cs with
  | ind n ih =>
    cases cs with
    | nil =>
      rw [List.nil_append, tags_tagless (tagless_of_not_mem open_)]
      rfl
    | cons c rest =>
      subst length
      by_cases slashes : (c :: rest).dropWhile (· == '\\') = []
      · -- nothing but backslashes
        have open' : ']' ∉ c :: rest := fun inside =>
          absurd (List.dropWhile_eq_nil_iff.mp slashes _ inside) (by decide)
        have openAll : ']' ∉ c :: rest ++ tail := fun inside =>
          (List.mem_append.mp inside).elim open' open_
        rw [tags_tagless (tagless_of_not_mem open'), tags_tagless (tagless_of_not_mem openAll)]
      · obtain ⟨taken, dropped⟩ := backslashes_append slashes tail
        rw [List.cons_append] at dropped taken ⊢
        have shorter := length_dropWhile_le (· == '\\') (c :: rest)
        cases found : tag? ((c :: rest).dropWhile (· == '\\')) with
        | some parts =>
          obtain ⟨body, more⟩ := parts
          have less := length_of_tag? found
          have found' : tag? ((c :: (rest ++ tail)).dropWhile (· == '\\'))
              = some (body, more ++ tail) := by
            rw [dropped, tag?_append open_, found]
            rfl
          rw [tags_cons_tag found', tags_cons_tag found, taken, ih _ (by omega) rfl]
        | none =>
          have none' : tag? ((c :: (rest ++ tail)).dropWhile (· == '\\')) = none := by
            rw [dropped, tag?_append open_, found]
            rfl
          rw [tags_cons none', tags_cons found, taken, dropped]
          split
          case isTrue => exact ih _ (Nat.lt_succ_self _) rfl
          case isFalse some_ => exact ih _ (length_dropWhile_lt some_) rfl

/-! ## The styles of a text -/

/-- The styles that tags set under those that are open. -/
def stylesFrom (opened : List OpenTag) : List (List Char) → List String
  | [] => opened.map OpenTag.style
  | body :: rest =>
    match turn opened body with
    | .ok (.opens tag) => stylesFrom (tag :: opened) rest
    | .ok (.closes place) =>
      (opened[place]?).toList.flatMap (fun tag => if tag.isHandler then [] else [tag.style])
        ++ stylesFrom (opened.eraseIdx place) rest
    | .error _ => []

theorem style_spanOf (start stop : Nat) (tag : OpenTag) :
    (spanOf start stop tag).map Span.style = if tag.isHandler then [] else [tag.style] := by
  unfold spanOf
  split <;> rfl

/-- The styles of a text are those of its tags, wherever these stand. -/
theorem styles_spansFrom (before : Nat) (opened : List (Nat × OpenTag)) (ps : List Piece) :
    (spansFrom before opened ps).map Span.style
      = stylesFrom (opened.map Prod.snd) (ps.filterMap Piece.body?) := by
  induction ps generalizing before opened with
  | nil => simp [spansFrom, stylesFrom]
  | cons piece rest ih =>
    cases piece with
    | plain cs => exact ih _ _
    | tag body =>
      change (spansFrom before opened (.tag body :: rest)).map Span.style
        = stylesFrom (opened.map Prod.snd) (body :: rest.filterMap Piece.body?)
      rw [spansFrom, stylesFrom]
      cases turned : turn (opened.map Prod.snd) body with
      | error fault => rfl
      | ok done =>
        cases done with
        | opens tag => exact ih _ _
        | closes place =>
          dsimp only
          rw [List.map_append, ih, List.eraseIdx_map, List.getElem?_map]
          congr 1
          cases opened[place]? with
          | none => rfl
          | some entry => simp [style_spanOf]

theorem styles_spans (text : String) :
    (spans text).map Span.style = stylesFrom [] (tags text.toList) :=
  styles_spansFrom 0 [] _

/-- A tag that is opened and closed sets its style and no other. -/
theorem stylesFrom_closed {opening closing : List Char} {tag : OpenTag}
    (opens : turn [] opening = .ok (.opens tag)) (closes : turn [tag] closing = .ok (.closes 0))
    (plain : tag.isHandler = false) (others : List (List Char)) :
    stylesFrom [] (opening :: closing :: others) = tag.style :: stylesFrom [] others := by
  rw [stylesFrom, opens]
  dsimp only
  rw [stylesFrom, closes]
  simp [plain]

/-- When all styles are looked up, only the tags of a text count. -/
theorem wellClosed_iff {text : String} {evaluates : List Char → Bool} :
    WellClosed text evaluates ↔ Closes evaluates [] (tags text.toList)
      ∧ ∀ style ∈ stylesFrom [] (tags text.toList), canLookUp style = true := by
  simp [WellClosed, ← styles_spans]

/-! ## What is shown -/

/-- Pieces are shown when their tags close what is open, each by itself. -/
theorem shownPieces_eq (evaluates : List Char → Bool) (opened : List OpenTag) (ps : List Piece) :
    shownPieces evaluates opened ps
      = ((ps.filterMap Piece.body?).foldlM (afterTag evaluates) opened).map fun _ =>
        ps.flatMap Piece.shown := by
  induction ps generalizing opened with
  | nil => rfl
  | cons piece rest ih =>
    cases piece with
    | plain cs =>
      rw [shownPieces, ih]
      change _ = ((rest.filterMap Piece.body?).foldlM (afterTag evaluates) opened).map _
      cases (rest.filterMap Piece.body?).foldlM (afterTag evaluates) opened <;> rfl
    | tag body =>
      rw [shownPieces]
      change _ = Except.map _ (afterTag evaluates opened body >>= fun opened =>
        (rest.filterMap Piece.body?).foldlM (afterTag evaluates) opened)
      cases afterTag evaluates opened body with
      | error fault => rfl
      | ok opened => exact ih opened

theorem unescapeBrackets_of_not_mem (closed : '[' ∉ cs) : unescapeBrackets cs = cs := by
  fun_induction unescapeBrackets with
  | case1 rest => exact absurd (List.mem_cons_of_mem _ List.mem_cons_self) closed
  | case2 c rest _ ih => rw [ih fun inside => closed (List.mem_cons_of_mem c inside)]
  | case3 => rfl

theorem flatMap_shown_plainPiece (cs : List Char) :
    (plainPiece cs).flatMap Piece.shown = withPictographs (unescapeBrackets cs) := by
  cases cs with
  | nil => rfl
  | cons c rest =>
    rw [plainPiece, if_neg (by simp), List.flatMap_singleton, Piece.shown]

/-- What is shown of a text are its pieces without the tags, when these close what is open and the
styles that are looked up can be. -/
theorem shown_eq (text : String) (evaluates : List Char → Bool) (isDrawn : String → Span → Bool) :
    shown text evaluates isDrawn = do
      let _ ← (tags text.toList).foldlM (afterTag evaluates) []
      lookUp ((spans text).filter (isDrawn (visible text)))
      return visible text := by
  unfold shown
  dsimp only
  by_cases brackets : '[' ∈ text.toList
  · rw [if_pos (List.contains_iff_mem.mpr brackets), shownPieces_eq]
    rw [← tags]
    cases (tags text.toList).foldlM (afterTag evaluates) [] <;> rfl
  · have tagless : Tagless text.toList := tagless_of_no_bracket brackets
    have same : String.ofList ((withPictographs text.toList).filter (!isStripped ·))
        = visible text := by
      rw [visible, pieces_tagless tagless, flatMap_shown_plainPiece,
        unescapeBrackets_of_not_mem brackets]
    rw [if_neg (fun inside => brackets (List.contains_iff_mem.mp inside)), tags_tagless tagless,
      ← same]
    rfl

theorem lookUp_isOk (spans : List Span) :
    (lookUp spans).isOk = true ↔ ∀ span ∈ spans, canLookUp span.style = true := by
  rw [← List.all_eq_true, lookUp]
  cases spans.all fun span => canLookUp span.style
  · exact ⟨nofun, nofun⟩
  · exact ⟨fun _ => rfl, fun _ => rfl⟩

/-- A text is shown when it is well closed. -/
theorem shown_eq_ok {text out : String} {evaluates : List Char → Bool}
    {isDrawn : String → Span → Bool} :
    shown text evaluates isDrawn = .ok out
      ↔ WellClosed text evaluates isDrawn ∧ out = visible text := by
  have looked : (lookUp ((spans text).filter (isDrawn (visible text)))).isOk = true
      ↔ ∀ span ∈ spans text, isDrawn (visible text) span = true →
        canLookUp span.style = true := by
    simp only [lookUp_isOk, List.mem_filter, and_imp]
  rw [shown_eq, WellClosed, ← looked, ← foldlM_afterTag_isOk]
  cases (tags text.toList).foldlM (afterTag evaluates) [] with
  | error fault => exact iff_of_false nofun fun closed => nomatch closed.1.1
  | ok opened =>
    cases lookUp ((spans text).filter (isDrawn (visible text))) with
    | error fault => exact iff_of_false nofun fun closed => nomatch closed.1.2
    | ok _ =>
      exact ⟨fun done => ⟨⟨rfl, rfl⟩, (Except.ok.inj done).symm⟩, fun ⟨_, same⟩ => same ▸ rfl⟩

theorem shown_isOk (text : String) (evaluates : List Char → Bool)
    (isDrawn : String → Span → Bool) :
    (shown text evaluates isDrawn).isOk = true ↔ WellClosed text evaluates isDrawn := by
  cases done : shown text evaluates isDrawn with
  | ok out => exact iff_of_true rfl (shown_eq_ok.mp done).1
  | error fault =>
    refine iff_of_false nofun fun closed => ?_
    rw [shown_eq_ok.mpr ⟨closed, rfl⟩] at done
    cases done

-- The words of a style may stand in any order; a handler is not closed without a literal.
example : WellClosed "[red bold]a[/bold red].xml" := by decide +kernel

example : ¬ WellClosed "[@x=(][/].xml" := by decide +kernel

/-- The fewer styles are looked up the better. -/
theorem WellClosed.weaken {text : String} {evaluates : List Char → Bool}
    (closed : WellClosed text evaluates) (isDrawn : String → Span → Bool) :
    WellClosed text evaluates isDrawn :=
  ⟨closed.1, fun span inside _ => closed.2 span inside rfl⟩

/-- A text without tags is well closed. -/
theorem WellClosed.of_tagless {text : String} (tagless : Tagless text.toList)
    (evaluates : List Char → Bool) : WellClosed text evaluates := by
  rw [wellClosed_iff, tags_tagless tagless]
  exact ⟨.nil, nofun⟩

end PrivilegeCatalog.Console
