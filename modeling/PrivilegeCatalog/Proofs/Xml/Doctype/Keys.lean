import PrivilegeCatalog.Proofs.Xml.Declarations

/-!
# The labels that a document declares

A declaration in a start tag is held to the rules of XML, and one that the document type gives by
default is not. Still the label of either is made up of the characters of names
(`Scan.wordChars_of_declares`): the keys of the rules in a document type are words
(`Doctype.keyed_ofText`), since of all declarations only those of attributes add rules.
-/

namespace PrivilegeCatalog.Xml

/-- The keys of all rules are words. -/
def Doctype.Keyed (d : Doctype) : Prop := ∀ rule ∈ d.rules, WordChars rule.key

theorem wordChars_of_word? {cs text rest : List Char} (read : word? cs = some (text, rest)) :
    WordChars text := by
  rw [word?.eq_def] at read
  split at read
  case h_1 =>
    split_ifs at read
    cases read
    exact fun c inside => List.mem_takeWhile_imp inside
  case h_2 => cases read

/-! ## Rules -/

namespace Doctype

variable {d : Doctype}

theorem keyed_addRule {rule : AttributeRule} (keyed : d.Keyed) (word : WordChars rule.key) :
    (d.addRule rule).Keyed := by
  unfold addRule
  split
  · exact keyed
  · intro other inside
    rcases List.mem_append.mp inside with old | new
    · exact keyed other old
    · rw [List.mem_singleton.mp new]
      exact word

end Doctype

namespace DoctypeParser

variable {standalone : Bool} {d d' : Doctype} {cs rest : List Char}

theorem keyed_rules? {element : List Char} {fuel : Nat} (keyed : d.Keyed)
    (read : rules? standalone element fuel d cs = some (d', rest)) : d'.Keyed := by
  induction fuel generalizing d cs with
  | zero => cases read
  | succ fuel ih =>
    rw [rules?.eq_def] at read
    dsimp only at read
    split at read
    case h_1 =>
      cases read
      exact keyed
    case h_2 =>
      simp only [Option.bind_eq_bind, Option.bind_eq_some_iff, Prod.exists] at read
      obtain ⟨key, a, named, b, -, isTokens, c, -, e, -, fallback, f, -, read⟩ := read
      have more : (d.addRule
          ⟨element, key, isTokens, if isTokens then fallback.map tokens else fallback⟩).Keyed :=
        Doctype.keyed_addRule keyed (wordChars_of_word? named)
      split at read
      case h_1 =>
        cases read
        exact more
      case h_2 =>
        obtain ⟨g, -, others⟩ := Option.bind_eq_some_iff.mp read
        exact ih more others

theorem keyed_attributes? (keyed : d.Keyed)
    (read : attributes? standalone d cs = some (d', rest)) : d'.Keyed := by
  simp only [attributes?, Option.bind_eq_bind, Option.bind_eq_some_iff, Prod.exists] at read
  obtain ⟨a, -, element, b, -, rules⟩ := read
  exact keyed_rules? keyed rules

/-! ## Other declarations -/

/-- An entity adds no rule. -/
theorem rules_entity? (read : entity? d cs = some (d', rest)) : d'.rules = d.rules := by
  simp only [entity?, Option.bind_eq_bind, Option.bind_eq_some_iff, Prod.exists, Option.pure_def,
    Option.some.injEq, Prod.mk.injEq] at read
  obtain ⟨a, -, parameter, name, b, -, c, -, e, f, -, more, -, same, -⟩ := read
  rw [← same]
  unfold withEntity
  cases parameter <;> rfl

/-- A notation adds no rule. -/
theorem rules_notation? (read : notation? d cs = some (d', rest)) : d'.rules = d.rules := by
  simp only [notation?, Option.bind_eq_bind, Option.bind_eq_some_iff, Prod.exists,
    Option.pure_def, Option.some.injEq, Prod.mk.injEq] at read
  obtain ⟨a, -, name, b, -, c, -, e, -, more, -, same, -⟩ := read
  rw [← same]

theorem keyed_declaration? (keyed : d.Keyed)
    (read : declaration? standalone d cs = some (d', rest)) : d'.Keyed := by
  rw [declaration?.eq_def] at read
  split at read
  case h_1 =>
    obtain ⟨left, -, same⟩ := Option.map_eq_some_iff.mp read
    cases same
    exact keyed
  case h_2 =>
    simp only [Option.bind_eq_bind, Option.bind_eq_some_iff, Prod.exists] at read
    obtain ⟨text, left, -, instruction, -, read⟩ := read
    split at read
    · cases read
      exact keyed
    · cases read
  case h_3 =>
    split at read
    case h_1 =>
      obtain ⟨left, -, same⟩ := Option.map_eq_some_iff.mp read
      cases same
      exact keyed
    case h_2 => exact keyed_attributes? keyed read
    case h_3 =>
      rw [Doctype.Keyed, rules_entity? read]
      exact keyed
    case h_4 =>
      rw [Doctype.Keyed, rules_notation? read]
      exact keyed
    case h_5 => cases read

section

variable {nested : Doctype → List Char → Option (Doctype × List Char)}

/-- The declarations in a parameter entity keep the keys of all rules words. -/
def KeyedNested (nested : Doctype → List Char → Option (Doctype × List Char)) : Prop :=
  ∀ d cs d' rest, d.Keyed → nested d cs = some (d', rest) → d'.Keyed

theorem keyed_parameter? (inner : KeyedNested nested) (keyed : d.Keyed)
    (read : parameter? standalone nested d cs = some (d', rest)) : d'.Keyed := by
  simp only [parameter?, Option.bind_eq_bind, Option.bind_eq_some_iff, Prod.exists] at read
  obtain ⟨name, a, -, b, -, read⟩ := read
  split at read
  case h_1 =>
    split_ifs at read
    cases read
    exact keyed
  case h_2 =>
    simp only [Option.bind_eq_some_iff, Prod.exists] at read
    obtain ⟨d'', left, followed, read⟩ := read
    split_ifs at read
    cases read
    exact inner { d with parameters := true } _ _ _ keyed followed
  case h_3 =>
    cases read
    exact keyed

theorem keyed_declarations? (inner : KeyedNested nested) {fuel : Nat} (keyed : d.Keyed)
    (read : declarations? standalone nested fuel d cs = some (d', rest)) : d'.Keyed := by
  induction fuel generalizing d cs with
  | zero => cases read
  | succ fuel ih =>
    unfold declarations? at read
    split at read
    case h_1 =>
      cases read
      exact keyed
    case h_2 =>
      cases read
      exact keyed
    case h_3 =>
      simp only [Option.bind_eq_bind, Option.bind_eq_some_iff, Prod.exists] at read
      obtain ⟨d'', left, first, others⟩ := read
      exact ih (keyed_parameter? inner keyed first) others
    case h_4 =>
      simp only [Option.bind_eq_bind, Option.bind_eq_some_iff, Prod.exists] at read
      obtain ⟨d'', left, first, others⟩ := read
      exact ih (keyed_declaration? keyed first) others

end

/-- Declarations keep the keys words, however deep parameter entities stand in another. -/
theorem keyed_subset? (standalone : Bool) (depth : Nat) :
    KeyedNested (subset? standalone depth) := by
  induction depth with
  | zero =>
    intro d cs d' rest _ read
    cases read
  | succ depth ih =>
    intro d cs d' rest keyed read
    exact keyed_declarations? ih keyed read

end DoctypeParser

open DoctypeParser

/-- The rules of a document type have words for keys. -/
theorem Doctype.keyed_ofText {standalone : Bool} {cs : List Char} {d : Doctype}
    (made : ofText standalone cs = some d) : d.Keyed := by
  simp only [ofText, Option.bind_eq_bind, Option.bind_eq_some_iff, Prod.exists] at made
  obtain ⟨a, -, name, b, -, external, c, -, made⟩ := made
  rw [internalSubset?.eq_def] at made
  split at made
  case h_1 =>
    cases made
    exact List.forall_mem_nil _
  case h_2 =>
    simp only [Option.bind_eq_bind, Option.bind_eq_some_iff, Prod.exists] at made
    obtain ⟨d', rest, followed, made⟩ := made
    have bare : Doctype.Keyed { external } := List.forall_mem_nil _
    have keyed := keyed_subset? standalone parameterDepth _ _ _ _ bare followed
    split at made
    case h_1 =>
      split_ifs at made
      cases made
      exact keyed
    case h_2 => cases made
  case h_3 => cases made

/-! ## Labels -/

/-- The stem of a name is cut out of its word. -/
theorem RawName.stem_subset {word : List Char} {name : RawName} (made : ofWord word = some name) :
    name.stem.toList ⊆ word := by
  have whole : (String.ofList word).toList ⊆ word := by
    rw [String.toList_ofList]
    exact List.Subset.refl word
  have tail : ∀ {colon : Char} {rest : List Char}, word.dropWhile (· != ':') = colon :: rest →
      (String.ofList rest).toList ⊆ word := by
    intro colon rest cut c inside
    rw [String.toList_ofList] at inside
    exact List.dropWhile_subset _ (cut ▸ List.mem_cons_of_mem _ inside)
  unfold ofWord at made
  dsimp only at made
  split at made
  case h_1 => cases made
  case h_2 =>
    cases made
    exact whole
  case h_3 =>
    split_ifs at made
    cases made
    exact whole
  case h_4 cut =>
    split_ifs at made
    · cases made
      exact whole
    · split at made
      case h_1 =>
        cases made
        exact tail cut
      case h_2 =>
        cases made
        exact tail cut
      case h_3 =>
        split_ifs at made
        cases made
        exact tail cut

/-- A label that is declared by default is a word. -/
theorem Doctype.wordChars_of_gives {d : Doctype} (keyed : d.Keyed) {b : String × String}
    (gives : d.Gives b) : WordChars b.1.toList := by
  obtain ⟨element, a, held, declares, -⟩ := gives
  rw [defaultAttributes, List.mem_filterMap] at held
  obtain ⟨rule, ruled, made⟩ := held
  have key := keyed rule (List.mem_filter.mp ruled).1
  split at made
  case h_1 value name _ named =>
    cases made
    have stem : WordChars name.stem.toList :=
      fun c inside => key c (RawName.stem_subset named inside)
    unfold Attribute.declares? at declares
    split at declares
    · split_ifs at declares
      rw [← Option.some.inj declares]
      exact List.forall_mem_nil _
    · split_ifs at declares
      rw [← Option.some.inj declares]
      exact stem
  case h_2 => cases made

namespace Scan

/-- The rules that are known at any place have words for keys. -/
theorem keyed_of_whole {cs : List Char} (whole : (Document.ofChars cs).wellFormed = true) :
    (ofChars cs).type.Keyed := by
  refine holds_of_whole (P := fun s => s.type.Keyed) nofun ?_ (fun _ keyed => keyed) whole
  intro s c s' keyed _ next
  cases next with
  | breaks broken => exact .inl broken
  | keeps kept =>
    have same : s'.type = s.type := congrArg (·.getD {}) kept.doctype
    rw [same]
    exact .inr keyed
  | opens _ _ => exact .inr keyed
  | closes _ => exact .inr keyed
  | declares _ made => exact .inr (Doctype.keyed_ofText made)

/-- The labels that a whole document declares are made up of the characters of names. -/
theorem wordChars_of_declares {cs : List Char} (whole : (Document.ofChars cs).wellFormed = true)
    {label uri : String} (told : .declares label uri ∈ (Document.ofChars cs).events) :
    WordChars label.toList := by
  obtain ⟨order, sound⟩ := told_of_whole whole
  by_cases named : label = ""
  · rw [named]
    exact nofun
  · rcases order.permitted sound label uri (List.mem_reverse.mp told) named with permitted | gives
    · exact wordChars_of_isPlainName permitted.declarable.plain
    · exact Doctype.wordChars_of_gives (keyed_of_whole whole) gives

end Scan

end PrivilegeCatalog.Xml
