import PrivilegeCatalog.Xml.Doctype.Parser

/-!
# What is left of a declaration

Each part of a document type declaration is read from the front of a text, and what is left is the
end of that text. So every text that is found in a declaration is a part of it.
-/

namespace PrivilegeCatalog.Xml

variable {cs rest text : List Char}

/-! ## Pieces -/

theorem skipBlanks_suffix (cs : List Char) : skipBlanks cs <:+ cs := List.dropWhile_suffix _

theorem needBlanks_suffix (read : needBlanks cs = some rest) : rest <:+ cs := by
  rw [needBlanks.eq_def] at read
  split at read
  case h_1 c more =>
    split at read
    case isTrue =>
      cases read
      exact (skipBlanks_suffix more).trans (List.suffix_cons c more)
    case isFalse => cases read
  case h_2 => cases read

theorem after?_suffix {lead : String} (read : after? lead cs = some rest) : rest <:+ cs := by
  unfold after? at read
  split at read
  case isTrue =>
    cases read
    exact List.drop_suffix _ _
  case isFalse => cases read

theorem quoted?_suffix (read : quoted? cs = some (text, rest)) : text ⊆ cs ∧ rest <:+ cs := by
  rw [quoted?.eq_def] at read
  split at read
  case h_1 quote more =>
    split at read
    case isTrue =>
      split at read
      case h_1 c tail dropped =>
        cases read
        have whole := List.dropWhile_suffix (l := more) (· != quote)
        rw [dropped] at whole
        refine ⟨fun d inside => List.mem_cons_of_mem _ (List.takeWhile_subset _ inside), ?_⟩
        exact (List.suffix_cons c rest).trans (whole.trans (List.suffix_cons quote more))
      case h_2 => cases read
    case isFalse => cases read
  case h_2 => cases read

theorem word?_suffix (read : word? cs = some (text, rest)) : rest <:+ cs := by
  rw [word?.eq_def] at read
  split at read
  case h_1 =>
    split at read
    case isTrue =>
      cases read
      exact List.dropWhile_suffix _
    case isFalse => cases read
  case h_2 => cases read

namespace DoctypeParser

theorem skipOne_suffix (marks : String) (cs : List Char) : skipOne marks cs <:+ cs := by
  rw [skipOne.eq_def]
  split
  case h_1 c more =>
    split
    · exact List.suffix_cons c more
    · exact List.suffix_rfl
  case h_2 => exact List.suffix_rfl

theorem token?_suffix (read : token? cs = some (text, rest)) : rest <:+ cs := by
  rw [token?] at read
  split at read
  · cases read
  · cases read
    exact List.dropWhile_suffix _

theorem comment?_suffix (read : comment? cs = some rest) : rest <:+ cs := by
  fun_induction comment? cs with
  | case1 more =>
    cases read
    exact ⟨['-', '-', '>'], rfl⟩
  | case2 => cases read
  | case3 c more _ _ ih => exact (ih read).trans (List.suffix_cons c more)
  | case4 => cases read

theorem instruction?_suffix (read : instruction? cs = some (text, rest)) : rest <:+ cs := by
  induction cs using instruction?.induct generalizing text with
  | case1 more =>
    unfold instruction? at read
    cases read
    exact ⟨['?', '>'], rfl⟩
  | case2 c more other ih =>
    rw [instruction?, Option.map_eq_some_iff] at read
    · obtain ⟨⟨inner, left⟩, found, same⟩ := read
      cases same
      exact (ih found).trans (List.suffix_cons c more)
    · exact other
  | case3 => cases read

theorem publicId?_suffix (read : publicId? cs = some rest) : rest <:+ cs := by
  simp only [publicId?, Option.bind_eq_bind, Option.bind_eq_some_iff, Prod.exists] at read
  obtain ⟨text, more, quoted, read⟩ := read
  split at read
  · cases read
    exact (quoted?_suffix quoted).2
  · cases read

theorem externalId?_suffix (read : externalId? cs = some (text, rest)) :
    text ⊆ cs ∧ rest <:+ cs := by
  unfold externalId? at read
  split at read
  case h_1 more system =>
    simp only [Option.bind_eq_bind, Option.bind_eq_some_iff] at read
    obtain ⟨inner, blanks, quoted⟩ := read
    have sub := (needBlanks_suffix blanks).trans (after?_suffix system)
    obtain ⟨inside, left⟩ := quoted?_suffix quoted
    exact ⟨fun c held => sub.subset (inside held), left.trans sub⟩
  case h_2 =>
    simp only [Option.bind_eq_bind, Option.bind_eq_some_iff] at read
    obtain ⟨a, public_, b, blanks, c, id, d, blanks', quoted⟩ := read
    have sub := (needBlanks_suffix blanks').trans ((publicId?_suffix id).trans
      ((needBlanks_suffix blanks).trans (after?_suffix public_)))
    obtain ⟨inside, left⟩ := quoted?_suffix quoted
    exact ⟨fun c held => sub.subset (inside held), left.trans sub⟩

section

variable {item : List Char → Option (List Char × List Char)}

theorem alternatives?_suffix (items : ∀ cs text rest, item cs = some (text, rest) → rest <:+ cs)
    {fuel : Nat} (read : alternatives? item fuel cs = some rest) : rest <:+ cs := by
  induction fuel generalizing cs with
  | zero => cases read
  | succ fuel ih =>
    unfold alternatives? at read
    split at read
    case h_1 more skipped =>
      cases read
      have sub := skipBlanks_suffix cs
      rw [skipped] at sub
      exact (List.suffix_cons _ _).trans sub
    case h_2 more skipped =>
      simp only [Option.bind_eq_bind, Option.bind_eq_some_iff, Prod.exists] at read
      obtain ⟨text, left, found, others⟩ := read
      have sub := skipBlanks_suffix cs
      rw [skipped] at sub
      exact (ih others).trans ((items _ _ _ found).trans
        ((skipBlanks_suffix more).trans ((List.suffix_cons _ _).trans sub)))
    case h_3 => cases read

theorem group?_suffix (items : ∀ cs text rest, item cs = some (text, rest) → rest <:+ cs)
    (read : group? item cs = some rest) : rest <:+ cs := by
  simp only [group?, Option.bind_eq_bind, Option.bind_eq_some_iff, Prod.exists] at read
  obtain ⟨text, left, found, others⟩ := read
  exact (alternatives?_suffix items others).trans
    ((items _ _ _ found).trans (skipBlanks_suffix cs))

end

/-! ## Elements -/

section

variable {fuel : Nat} (one : ∀ {cs rest}, particle? fuel cs = some rest → rest <:+ cs)
  (more : ∀ {separator cs rest}, particles? fuel separator cs = some rest → rest <:+ cs)

include one more

theorem particle?_succ_suffix (read : particle? (fuel + 1) cs = some rest) : rest <:+ cs := by
  rw [particle?.eq_def] at read
  split at read
  case h_1 => cases read
  case h_2 fuel' inner same =>
    cases same
    simp only [Option.bind_eq_bind, Option.bind_eq_some_iff, Option.some.injEq] at read
    obtain ⟨first, readFirst, left, readOthers, same⟩ := read
    rw [← same]
    exact (skipOne_suffix _ _).trans ((more readOthers).trans ((skipBlanks_suffix _).trans
      ((one readFirst).trans ((skipBlanks_suffix _).trans (List.suffix_cons _ _)))))
  case h_3 =>
    simp only [Option.bind_eq_bind, Option.bind_eq_some_iff, Prod.exists,
      Option.some.injEq] at read
    obtain ⟨name, left, named, same⟩ := read
    rw [← same]
    exact (skipOne_suffix _ _).trans (word?_suffix named)

theorem particles?_succ_suffix {separator : Option Char}
    (read : particles? (fuel + 1) separator cs = some rest) : rest <:+ cs := by
  rw [particles?.eq_def] at read
  split at read
  case h_1 => cases read
  case h_2 =>
    cases read
    exact List.suffix_cons _ _
  case h_3 fuel' c inner _ same =>
    cases same
    split at read
    case isTrue =>
      simp only [Option.bind_eq_bind, Option.bind_eq_some_iff] at read
      obtain ⟨first, readFirst, readOthers⟩ := read
      exact (more readOthers).trans ((skipBlanks_suffix _).trans
        ((one readFirst).trans ((skipBlanks_suffix _).trans (List.suffix_cons _ _))))
    case isFalse => cases read
  case h_4 => cases read

end

/-- Parts of content models are read from the front, whatever the fuel. -/
theorem particles_suffix (fuel : Nat) :
    (∀ {cs rest}, particle? fuel cs = some rest → rest <:+ cs) ∧
      ∀ {separator cs rest}, particles? fuel separator cs = some rest → rest <:+ cs := by
  induction fuel with
  | zero =>
    constructor
    · intro cs rest read
      unfold particle? at read
      cases read
    · intro separator cs rest read
      unfold particles? at read
      cases read
  | succ fuel ih => exact ⟨particle?_succ_suffix ih.1 ih.2, particles?_succ_suffix ih.1 ih.2⟩

theorem mixed?_suffix (read : mixed? cs = some rest) : rest <:+ cs := by
  have blanks := skipBlanks_suffix cs
  unfold mixed? at read
  split at read
  case h_1 more skipped =>
    cases read
    rw [skipped] at blanks
    exact (skipOne_suffix _ _).trans ((List.suffix_cons _ _).trans blanks)
  case h_2 inner _ =>
    simp only [Option.bind_eq_bind, Option.bind_eq_some_iff] at read
    obtain ⟨left, found, star⟩ := read
    have sub := alternatives?_suffix (fun _ _ _ => word?_suffix) found
    exact (after?_suffix star).trans (sub.trans blanks)

theorem contentModel?_suffix (read : contentModel? cs = some rest) : rest <:+ cs := by
  rw [contentModel?.eq_def] at read
  split at read
  case h_1 empty =>
    cases read
    exact after?_suffix empty
  case h_2 any _ =>
    cases read
    exact after?_suffix any
  case h_3 inner _ _ =>
    split at read
    case h_1 left data =>
      exact (mixed?_suffix read).trans ((after?_suffix data).trans
        ((skipBlanks_suffix _).trans (List.suffix_cons _ _)))
    case h_2 => exact (particles_suffix _).1 read
  case h_4 => cases read

theorem element?_suffix (read : element? cs = some rest) : rest <:+ cs := by
  simp only [element?, Option.bind_eq_bind, Option.bind_eq_some_iff, Prod.exists] at read
  obtain ⟨a, blanks, name, b, named, c, blanks', d, model, closed⟩ := read
  have sub := (needBlanks_suffix blanks').trans
    ((word?_suffix named).trans (needBlanks_suffix blanks))
  exact (after?_suffix closed).trans
    ((skipBlanks_suffix _).trans ((contentModel?_suffix model).trans sub))

/-! ## Attributes, entities and notations -/

theorem attributeType?_suffix {isTokens : Bool}
    (read : attributeType? cs = some (isTokens, rest)) : rest <:+ cs := by
  unfold attributeType? at read
  split at read
  case h_1 w left found =>
    cases read
    obtain ⟨word, -, known⟩ := List.exists_of_findSome?_eq_some found
    rw [Option.map_eq_some_iff] at known
    obtain ⟨left, after, same⟩ := known
    cases same
    exact after?_suffix after
  case h_2 =>
    split at read
    case h_1 left notation_ =>
      simp only [Option.bind_eq_bind, Option.bind_eq_some_iff, Option.pure_def,
        Option.some.injEq] at read
      obtain ⟨a, blanks, b, opened, c, names, same⟩ := read
      cases same
      exact (group?_suffix (fun _ _ _ => word?_suffix) names).trans ((after?_suffix opened).trans
        ((needBlanks_suffix blanks).trans (after?_suffix notation_)))
    case h_2 =>
      simp only [Option.bind_eq_bind, Option.bind_eq_some_iff, Option.pure_def,
        Option.some.injEq] at read
      obtain ⟨a, opened, b, names, same⟩ := read
      cases same
      exact (group?_suffix (fun _ _ _ => token?_suffix) names).trans (after?_suffix opened)

theorem elsewhere?_suffix (read : elsewhere? cs = some rest) : rest <:+ cs := by
  simp only [elsewhere?, Option.bind_eq_bind, Option.bind_eq_some_iff, Prod.exists] at read
  obtain ⟨text, left, found, read⟩ := read
  split at read
  · cases read
  · cases read
    exact (externalId?_suffix found).2

theorem data?_suffix {e : Entity} (read : data? cs = some (e, rest)) : rest <:+ cs := by
  rw [data?.eq_def] at read
  split at read
  case h_1 =>
    cases read
    exact List.suffix_rfl
  case h_2 =>
    simp only [Option.bind_eq_bind, Option.bind_eq_some_iff] at read
    obtain ⟨a, blanks, read⟩ := read
    split at read
    case h_1 left found =>
      simp only [Option.bind_eq_some_iff, Prod.exists, Option.pure_def, Option.some.injEq] at read
      obtain ⟨b, blanks', name, c, named, same⟩ := read
      cases same
      exact (word?_suffix named).trans ((needBlanks_suffix blanks').trans
        ((after?_suffix found).trans (needBlanks_suffix blanks)))
    case h_2 =>
      cases read
      exact needBlanks_suffix blanks

theorem entityName?_suffix {parameter : Bool} {name : List Char}
    (read : entityName? cs = some (parameter, name, rest)) : rest <:+ cs := by
  unfold entityName? at read
  split at read
  case h_1 more percent =>
    simp only [Option.bind_eq_bind, Option.bind_eq_some_iff, Prod.exists, Option.pure_def,
      Option.some.injEq] at read
    obtain ⟨a, blanks, name, b, named, same⟩ := read
    cases same
    exact (word?_suffix named).trans ((needBlanks_suffix blanks).trans (after?_suffix percent))
  case h_2 =>
    obtain ⟨⟨name, more⟩, named, same⟩ := Option.map_eq_some_iff.mp read
    cases same
    exact word?_suffix named

theorem notationId?_suffix (read : notationId? cs = some rest) : rest <:+ cs := by
  unfold notationId? at read
  split at read
  case h_1 more public_ =>
    simp only [Option.bind_eq_bind, Option.bind_eq_some_iff] at read
    obtain ⟨a, blanks, b, id, read⟩ := read
    have sub := (publicId?_suffix id).trans
      ((needBlanks_suffix blanks).trans (after?_suffix public_))
    split at read
    case h_1 text more' place =>
      cases read
      obtain ⟨c, blanks', quoted⟩ := Option.bind_eq_some_iff.mp place
      exact (quoted?_suffix quoted).2.trans ((needBlanks_suffix blanks').trans sub)
    case h_2 =>
      cases read
      exact sub
  case h_2 =>
    obtain ⟨⟨text, more⟩, external, same⟩ := Option.map_eq_some_iff.mp read
    cases same
    exact (externalId?_suffix external).2

end DoctypeParser

end PrivilegeCatalog.Xml
