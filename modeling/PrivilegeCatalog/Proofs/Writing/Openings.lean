import PrivilegeCatalog.Proofs.Writing.Elements
import PrivilegeCatalog.Proofs.Xml.Declarations
import PrivilegeCatalog.Proofs.Xml.Spelling

/-!
# What written start tags make

A written attribute is read with its name and its value (`readAttributes_written`), in whichever
way values are written that is read back (`IsEscape`). From it follows what the start tags of a
list of privileges make: those of entries and members declare nothing, and the one of the root
declares each binding that XML leaves to documents (`opening_declarations`).
-/

namespace PrivilegeCatalog.Xml

open Scan (Opening)

/-! ## Names -/

theorem startsName_of_isPlainName {cs : List Char} (plain : isPlainName cs = true) :
    RawName.startsName cs = true := by
  cases cs with
  | nil => cases plain
  | cons c rest => exact (Bool.and_eq_true_iff.mp plain).1

/-- No colon stands in a plain name. -/
theorem dropWhile_of_isPlainName {cs : List Char} (plain : isPlainName cs = true) :
    cs.dropWhile (· != ':') = [] := by
  rw [List.dropWhile_eq_nil_iff]
  intro c inside
  rw [bne_iff_ne]
  intro colon
  have name := isNameChar_of_isPlainName plain c inside
  rw [colon] at name
  revert name
  decide

theorem isWord_of_isPlainName {cs : List Char} (plain : isPlainName cs = true) :
    isWord cs = true := by
  cases cs with
  | nil => cases plain
  | cons c rest =>
    obtain ⟨start, others⟩ := Bool.and_eq_true_iff.mp plain
    refine Bool.and_eq_true_iff.mpr ⟨?_, List.all_eq_true.mpr fun d inside => ?_⟩
    · rw [start, Bool.or_true]
    · rw [isWordChar, List.all_eq_true.mp others d inside, Bool.or_true]

/-- A plain name is a name without a label. -/
theorem ofWord_plain {cs : List Char} (plain : isPlainName cs = true) :
    RawName.ofWord cs = some ⟨none, String.ofList cs, true⟩ := by
  have noColon := dropWhile_of_isPlainName plain
  have start := startsName_of_isPlainName plain
  rw [RawName.ofWord.eq_def]
  dsimp only
  rw [noColon]
  split
  case h_1 => cases start
  case h_2 => cases start
  case h_3 => exact if_pos start
  case h_4 same => cases same

/-- A plain name after the label of declarations is the name of a declaration. -/
theorem ofWord_declaration {cs : List Char} (plain : isPlainName cs = true) :
    RawName.ofWord ("xmlns:".toList ++ cs)
      = some ⟨some declarationLabel, String.ofList cs, true⟩ := by
  have noColon := dropWhile_of_isPlainName plain
  have start := startsName_of_isPlainName plain
  have cut : ("xmlns:".toList ++ cs).dropWhile (· != ':') = ':' :: cs := rfl
  have label : ("xmlns:".toList ++ cs).takeWhile (· != ':') = "xmlns".toList := rfl
  rw [RawName.ofWord.eq_def]
  dsimp only
  rw [cut, label]
  split
  case h_1 same => cases same
  case h_2 same => exact absurd (List.cons.inj same).1 (by decide)
  case h_3 same => cases same
  case h_4 c tail _ _ _ first same =>
    cases same
    have start' : isNameStart c = true := by
      rw [← (List.cons.inj first).1]
      rfl
    rw [start', start, noColon]
    rfl

/-- What starts like a declaration is a word. -/
theorem isWord_xmlns {cs : List Char} (word : WordChars cs) :
    isWord ("xmlns:".toList ++ cs) = true := by
  have lead : ("mlns:".toList).all isWordChar = true := by decide
  have rest : cs.all isWordChar = true := List.all_eq_true.mpr word
  have shape : "xmlns:".toList ++ cs = 'x' :: ("mlns:".toList ++ cs) := rfl
  rw [shape, isWord, List.all_append, lead, rest]
  rfl

/-! ## Attributes -/

section

variable {standalone : Bool} {element : List Char} {allowance : Nat}
  {attributes : List (List Char × List Char)} {named : List Attribute}

/-- An attribute is read under its name with its value. -/
def ReadAs (a : List Char × List Char) (b : Attribute) : Prop :=
  RawName.ofWord a.1 = some b.name ∧ ∀ standalone allowance,
    attributeValue {} standalone a.2 allowance = some (b.value.toList, allowance)

theorem readAs_map {α : Type} {items : List α} {written : α → List Char × List Char}
    {read : α → Attribute} (reads : ∀ x ∈ items, ReadAs (written x) (read x)) :
    List.Forall₂ ReadAs (items.map written) (items.map read) := by
  rw [List.forall₂_map_left_iff, List.forall₂_map_right_iff, List.forall₂_same]
  exact reads

/-- Written attributes are read in their order, at no cost. -/
theorem readAttributes_written (names : List.Forall₂ ReadAs attributes named) :
    readAttributes {} standalone element attributes allowance = some (named, allowance) := by
  induction names with
  | nil => rfl
  | @cons a b rest others first _ ih =>
    obtain ⟨name, value⟩ := first
    have noTokens : Doctype.isTokens {} element a.1 = false := rfl
    simp only [readAttributes, name, value, noTokens, ih, String.ofList_toList,
      Option.bind_eq_bind, Option.bind_some, Bool.false_eq_true, if_false]
    rfl

/-- An attribute without a label that declares nothing. -/
def given (a : String × String) : Attribute := ⟨⟨none, a.1, true⟩, a.2⟩

theorem declaredBy_given {pairs : List (String × String)}
    (keys : ∀ a ∈ pairs, a.1 ≠ declarationLabel) :
    declaredBy (pairs.map given) = some ⟨[], true⟩ := by
  rw [declaredBy_eq]
  induction pairs with
  | nil => rfl
  | cons a rest ih =>
    have other := keys a (List.mem_cons_self ..)
    have none_ : (given a).declares? = none := if_neg other
    rw [List.map_cons, List.foldlM_cons, Declared.take, none_]
    exact ih fun b inside => keys b (List.mem_cons_of_mem _ inside)

/-! ## Declarations -/

/-- An attribute that declares a namespace. -/
def declaring (binding : String × String) : Attribute :=
  ⟨⟨some declarationLabel, binding.1, true⟩, binding.2⟩

/-- Declarable bindings under different labels are declared in their order. -/
theorem foldlM_declaring {bindings : List (String × String)} {d : Declared}
    (declarable : ∀ b ∈ bindings, Declarable b) (distinct : (bindings.map Prod.fst).Nodup)
    (fresh : ∀ b ∈ bindings, ∀ earlier ∈ d.bindings, earlier.1 ≠ b.1) :
    (bindings.map declaring).foldlM Declared.take d
      = some ⟨(bindings.filter isOpen).reverse ++ d.bindings,
        d.sound && bindings.all isOpen⟩ := by
  induction bindings generalizing d with
  | nil => simp
  | cons b rest ih =>
    have others : ∀ c ∈ rest, Declarable c :=
      fun c inside => declarable c (List.mem_cons_of_mem _ inside)
    have first : (declaring b).declares? = some b.1 := rfl
    have value : (declaring b).value = b.2 := rfl
    have new : d.bindings.any (·.1 == b.1) = false := by
      rw [List.any_eq_false]
      exact fun earlier inside => by simpa using fresh b (List.mem_cons_self ..) earlier inside
    rw [List.map_cons, List.nodup_cons] at distinct
    have apart : ∀ c ∈ rest, b.1 ≠ c.1 := by
      intro c inside same
      exact distinct.1 (same ▸ List.mem_map_of_mem inside)
    have fresh' : ∀ c ∈ rest, ∀ earlier ∈ d.bindings, earlier.1 ≠ c.1 :=
      fun c inside => fresh c (List.mem_cons_of_mem _ inside)
    rw [List.map_cons, List.foldlM_cons, Declared.take, first]
    dsimp only
    rw [value, Declared.add, judgeDeclaration_declarable (declarable b (List.mem_cons_self ..))]
    dsimp only
    cases opened : isOpen b with
    | true =>
      rw [if_pos rfl, new, if_neg Bool.false_ne_true]
      refine (ih others distinct.2 ?_).trans ?_
      · intro c inside earlier old
        rcases List.mem_cons.mp old with same | old
        · rw [same]
          exact apart c inside
        · exact fresh' c inside earlier old
      · simp [opened]
    | false =>
      rw [if_neg Bool.false_ne_true]
      refine (ih (d := ⟨d.bindings, d.sound && false⟩) others distinct.2 fresh').trans ?_
      simp [opened]

theorem declaredBy_declaring {bindings : List (String × String)}
    (declarable : ∀ b ∈ bindings, Declarable b) (distinct : (bindings.map Prod.fst).Nodup) :
    declaredBy (bindings.map declaring)
      = some ⟨(bindings.filter isOpen).reverse, bindings.all isOpen⟩ := by
  have fresh : ∀ b ∈ bindings, ∀ earlier ∈ (⟨[], true⟩ : Declared).bindings, earlier.1 ≠ b.1 :=
    fun _ _ _ inside => (List.not_mem_nil inside).elim
  rw [declaredBy_eq, foldlM_declaring declarable distinct fresh, List.append_nil, Bool.true_and]

end

/-! ## Openings -/

/-- Attributes without labels are told apart by their keys. -/
theorem checkAttributes_given {scope : Scope} {earlier pairs : List (String × String)}
    (distinct : ((earlier ++ pairs).map Prod.fst).Nodup) :
    checkAttributes scope (earlier.map given) (pairs.map given) = some true := by
  induction pairs generalizing earlier with
  | nil => rfl
  | cons a rest ih =>
    have new : (earlier.map given).find? (sameAttribute scope (given a)) = none := by
      rw [List.find?_eq_none]
      intro _ held
      obtain ⟨b, inside, same⟩ := List.mem_map.mp held
      subst same
      rw [List.map_append, List.nodup_append] at distinct
      have apart := distinct.2.2 b.1 (List.mem_map_of_mem inside) a.1 (List.mem_cons_self ..)
      simp [sameAttribute, given, Ne.symm apart]
    have later := @ih (earlier ++ [a]) (by rwa [List.append_assoc, List.singleton_append])
    rw [List.map_append] at later
    rw [List.map_cons, checkAttributes, new]
    exact later

/-- The attributes of a start tag without labels, as they are written. -/
def keyed (escape : List Char → List Char) (pairs : List (String × String)) :
    List (List Char × List Char) :=
  pairs.map fun a => (a.1.toList, escape a.2.toList)

theorem readAs_given {escape : List Char → List Char} (isEscape : IsEscape escape)
    {pairs : List (String × String)} (plain : ∀ a ∈ pairs, isPlainName a.1.toList = true)
    (texts : ∀ a ∈ pairs, XmlChars a.2.toList) :
    List.Forall₂ ReadAs (keyed escape pairs) (pairs.map given) := by
  refine readAs_map fun a inside => ⟨?_, isEscape.value (texts a inside)⟩
  rw [ofWord_plain (plain a inside), String.ofList_toList]
  rfl

/-- What a start tag makes in a document without a type and at a place without a default
namespace, from its attributes and from those of them that are no declarations. -/
theorem ofDraft_eq {scope : Scope} {d : TagDraft} {allowance : Nat} {name : String}
    {attributes others : List Attribute} {declared : Declared} (line : Nat)
    (plain : isPlainName name.toList = true) (word : d.word = name.toList)
    (read : readAttributes {} false name.toList d.attributes.reverse allowance
      = some (attributes, allowance))
    (judged : declaredBy attributes = some declared)
    (rest : attributes.filter (·.declares?.isNone) = others)
    (apart : checkAttributes (declared.bindings ++ scope) [] others = some true)
    (sound : ∀ a ∈ attributes, a.name.sound = true) (bare : ∀ a ∈ others, a.name.label = none)
    (free : (declared.bindings ++ scope).lookup "" = none) :
    Element.ofDraft {} false scope line allowance d
      = some ⟨declared.bindings.reverse,
          ⟨"", name, line, others.map fun a => (a.name.stem, a.value)⟩,
          declared.bindings ++ scope, declared.sound, allowance⟩ := by
  have noDefaults : defaultAttributes {} name.toList = [] := rfl
  have same : declared.withDefaults [] = declared := rfl
  have expanded : expandElement (declared.bindings ++ scope) ⟨none, name, true⟩
      = ⟨"", name, true⟩ := by
    unfold expandElement
    dsimp only
    rw [free]
    rfl
  have known : (others.all fun a =>
      (expandAttribute (declared.bindings ++ scope) a.name).known) = true := by
    rw [List.all_eq_true]
    intro a inside
    rw [expandAttribute, bare a inside]
  have all : others.filter (·.name.label.isNone) = others := by
    rw [List.filter_eq_self]
    intro a inside
    rw [bare a inside]
    rfl
  have sound_ : (attributes.all (·.name.sound)) = true := List.all_eq_true.mpr sound
  simp only [Element.ofDraft, word, ofWord_plain plain, read, judged, noDefaults, same, rest,
    apart, String.ofList_toList, expanded, List.filter_nil, List.append_nil, known, all, sound_,
    Option.bind_eq_bind, Option.bind_some, Option.pure_def, Bool.and_true]

/-- A start tag whose attributes have no labels declares nothing and holds them. -/
theorem opening_given {escape : List Char → List Char} (isEscape : IsEscape escape)
    {name : String} (plain : isPlainName name.toList = true) {pairs : List (String × String)}
    (keys : ∀ a ∈ pairs, isPlainName a.1.toList = true ∧ a.1 ≠ declarationLabel)
    (texts : ∀ a ∈ pairs, XmlChars a.2.toList) (distinct : (pairs.map Prod.fst).Nodup) :
    Opening name (keyed escape pairs) [] pairs true := by
  intro scope d line allowance free word held
  have read := @readAttributes_written false name.toList allowance _ _
    (readAs_given isEscape (fun a inside => (keys a inside).1) texts)
  rw [← held] at read
  have judged := declaredBy_given fun a inside => (keys a inside).2
  have apart : checkAttributes scope [] (pairs.map given) = some true :=
    @checkAttributes_given scope [] pairs distinct
  have rest : (pairs.map given).filter (·.declares?.isNone) = pairs.map given := by
    rw [List.filter_eq_self]
    intro a inside
    obtain ⟨pair, inside, same⟩ := List.mem_map.mp inside
    have none_ : (given pair).declares? = none := if_neg (keys pair inside).2
    rw [← same, none_]
    rfl
  have bare : ∀ a ∈ pairs.map given, a.name.label = none ∧ a.name.sound = true := by
    intro a inside
    obtain ⟨pair, -, same⟩ := List.mem_map.mp inside
    subst same
    exact ⟨rfl, rfl⟩
  have made :=
    ofDraft_eq line plain word read judged rest apart (fun a inside => (bare a inside).2)
    (fun a inside => (bare a inside).1) free
  have values : (pairs.map given).map (fun a => (a.name.stem, a.value)) = pairs := by
    rw [List.map_map]
    exact List.map_id pairs
  rw [values] at made
  exact ⟨scope, free, made⟩

/-- The attributes that declare bindings, as they are written. -/
def declarations (escape : List Char → List Char) (bindings : List (String × String)) :
    List (List Char × List Char) :=
  bindings.map fun b => ("xmlns:".toList ++ b.1.toList, escape b.2.toList)

theorem readAs_declaring {escape : List Char → List Char} (isEscape : IsEscape escape)
    {bindings : List (String × String)} (declarable : ∀ b ∈ bindings, Declarable b)
    (texts : ∀ b ∈ bindings, XmlChars b.2.toList) :
    List.Forall₂ ReadAs (declarations escape bindings) (bindings.map declaring) := by
  refine readAs_map fun b inside => ⟨?_, isEscape.value (texts b inside)⟩
  rw [ofWord_declaration (declarable b inside).plain, String.ofList_toList]
  rfl

/-- A start tag of declarations declares those that are open, and is sound when all are. -/
theorem opening_declarations {escape : List Char → List Char} (isEscape : IsEscape escape)
    {name : String} (plain : isPlainName name.toList = true)
    {bindings : List (String × String)} (declarable : ∀ b ∈ bindings, Declarable b)
    (texts : ∀ b ∈ bindings, XmlChars b.2.toList) (distinct : (bindings.map Prod.fst).Nodup) :
    Opening name (declarations escape bindings) (bindings.filter isOpen) []
      (bindings.all isOpen) := by
  intro scope d line allowance free word held
  have read := @readAttributes_written false name.toList allowance _ _
    (readAs_declaring isEscape declarable texts)
  rw [← held] at read
  have judged := declaredBy_declaring declarable distinct
  have rest : (bindings.map declaring).filter (·.declares?.isNone) = [] := by
    rw [List.filter_eq_nil_iff]
    intro a inside
    obtain ⟨b, -, same⟩ := List.mem_map.mp inside
    subst same
    exact Bool.false_ne_true
  have sound : ∀ a ∈ bindings.map declaring, a.name.sound = true := by
    intro a inside
    obtain ⟨b, -, same⟩ := List.mem_map.mp inside
    subst same
    rfl
  have free' : ((bindings.filter isOpen).reverse ++ scope).lookup "" = none := by
    rw [List.lookup_append, free, Option.or_none, List.lookup_eq_none_iff]
    intro b inside
    have inside := List.mem_of_mem_filter (List.mem_reverse.mp inside)
    simpa using Ne.symm (declarable b inside).label.1
  have made := ofDraft_eq line plain word read judged rest rfl sound nofun free'
  rw [List.reverse_reverse] at made
  exact ⟨_, free', made⟩

end PrivilegeCatalog.Xml
