import PrivilegeCatalog.Proofs.Xml.Names

/-!
# Values are texts

The value of an attribute holds only characters that a document may hold, when the text between
its quotes and the texts of the entities do (`xmlChars_attributeValue`). `Doctype.Textual` says so
of all that a document type holds.
-/

namespace PrivilegeCatalog.Xml

/-- The texts of entities may stand in a document. -/
def TextualEntities (entities : List (String × Entity)) : Prop :=
  ∀ name text, (name, Entity.within text) ∈ entities → XmlChars text

/-- The texts that a document type holds may stand in a document. -/
structure Doctype.Textual (d : Doctype) : Prop where
  entities : TextualEntities d.entities
  parameterEntities : TextualEntities d.parameterEntities
  rules : ∀ rule ∈ d.rules, ∀ value, rule.fallback = some value → XmlChars value

theorem XmlChars.nil : XmlChars [] := nofun

theorem XmlChars.cons {c : Char} {cs : List Char} (first : isXmlChar c = true)
    (others : XmlChars cs) : XmlChars (c :: cs) := List.forall_mem_cons.mpr ⟨first, others⟩

theorem XmlChars.of_subset {cs ds : List Char} (text : XmlChars cs) (sub : ds ⊆ cs) :
    XmlChars ds :=
  fun c inside => text c (sub inside)

theorem XmlChars.append {cs ds : List Char} (first : XmlChars cs) (second : XmlChars ds) :
    XmlChars (cs ++ ds) := List.forall_mem_append.mpr ⟨first, second⟩

/-- What each step keeps holds after all steps. -/
theorem foldlM_keeps {α β : Type} {f : β → α → Option β} {P : β → Prop} {xs : List α}
    (next : ∀ b, P b → ∀ x ∈ xs, ∀ b', f b x = some b' → P b') {b b' : β} (init : P b)
    (done : xs.foldlM f b = some b') : P b' := by
  induction xs generalizing b with
  | nil =>
    cases done
    exact init
  | cons x rest ih =>
    rw [List.foldlM_cons, Option.bind_eq_bind, Option.bind_eq_some_iff] at done
    obtain ⟨middle, first, others⟩ := done
    refine ih (fun b held y inside => next b held y (List.mem_cons_of_mem _ inside)) ?_ others
    exact next b init x (List.mem_cons_self ..) middle first

/-- A reference to a character stands for one that a document may hold. -/
theorem isXmlChar_of_reference {body : List Char} {c : Char}
    (means : Reference.ofText body = some (.character c)) : isXmlChar c = true := by
  have known : ∀ n d, xmlChar? n = some d → isXmlChar d = true := by
    intro n d found
    unfold xmlChar? at found
    split at found
    case isTrue =>
      dsimp only at found
      split at found
      case isTrue valid =>
        cases found
        exact valid
      case isFalse => cases found
    case isFalse => cases found
  rw [Reference.ofText.eq_def] at means
  split at means
  case h_1 =>
    simp only [Option.map_eq_some_iff, Option.bind_eq_some_iff,
      Reference.character.injEq] at means
    obtain ⟨d, ⟨n, -, found⟩, same⟩ := means
    exact same ▸ known n d found
  case h_2 =>
    simp only [Option.map_eq_some_iff, Option.bind_eq_some_iff,
      Reference.character.injEq] at means
    obtain ⟨d, ⟨n, -, found⟩, same⟩ := means
    exact same ▸ known n d found
  case h_3 =>
    split at means
    · cases means
    · cases means

theorem xmlChars_joinLineEnds {cs : List Char} (text : XmlChars cs) :
    XmlChars (joinLineEnds cs) := by
  fun_induction joinLineEnds cs with
  | case1 rest ih =>
    refine .cons (by decide) (ih fun c inside => text c ?_)
    exact List.mem_cons_of_mem _ (List.mem_cons_of_mem _ inside)
  | case2 rest _ ih =>
    exact .cons (by decide) (ih fun c inside => text c (List.mem_cons_of_mem _ inside))
  | case3 c rest _ _ ih =>
    refine .cons (text c (List.mem_cons_self ..)) (ih fun d inside => ?_)
    exact text d (List.mem_cons_of_mem _ inside)
  | case4 => exact .nil

theorem xmlChars_tokens {value : List Char} (text : XmlChars value) :
    XmlChars (tokens value) := by
  unfold tokens
  refine XmlChars.reverse (XmlChars.of_subset ?_ (List.dropWhile_subset _))
  refine List.foldlRecOn value _ XmlChars.nil fun soFar held c inside => ?_
  split
  · exact held
  · exact .cons (text c inside) held

/-! ## Values -/

section

variable {doctype : Doctype} {standalone : Bool} {nested : Expand}

/-- What an entity adds is a text when its own text is one. -/
def TextualExpand (nested : Expand) : Prop :=
  ∀ text allowance added left, XmlChars text → nested text allowance = some (added, left) →
    XmlChars added

theorem mem_of_lookup {β : Type} {entries : List (String × β)} {name : String} {b : β}
    (found : entries.lookup name = some b) : (name, b) ∈ entries := by
  obtain ⟨before, after, same, -⟩ := List.lookup_eq_some_iff.mp found
  exact same ▸ List.mem_append_right _ (List.mem_cons_self ..)

theorem isXmlChar_of_predefined {name : String} {c : Char}
    (known : predefinedEntities.lookup name = some c) : isXmlChar c = true := by
  have all : ∀ entry ∈ predefinedEntities, isXmlChar entry.2 = true := by decide
  exact all (name, c) (mem_of_lookup known)

theorem xmlChars_refer (entities : TextualEntities doctype.entities)
    (textual : TextualExpand nested) {d d' : ValueDraft} {body : List Char}
    (text : XmlChars d.soFar) (next : d.refer doctype standalone nested body = some d') :
    XmlChars d'.soFar := by
  unfold ValueDraft.refer at next
  split at next
  case h_1 => cases next
  case h_2 c means =>
    cases next
    exact .cons (isXmlChar_of_reference means) text
  case h_3 name means =>
    split at next
    case h_1 c known =>
      cases next
      exact .cons (isXmlChar_of_predefined known) text
    case h_2 =>
      split at next
      case h_1 inner found =>
        simp only [Option.bind_eq_bind, Option.bind_eq_some_iff, Prod.exists, Option.pure_def,
          Option.some.injEq] at next
        obtain ⟨allowance, -, added, left, expanded, same⟩ := next
        rw [← same]
        have innerText := entities name inner (mem_of_lookup found)
        have addedText := textual inner allowance added left innerText expanded
        exact addedText.reverse.append text
      case h_2 => cases next
      case h_3 =>
        split at next
        · cases next
          exact text
        · cases next

theorem xmlChars_step (entities : TextualEntities doctype.entities)
    (textual : TextualExpand nested) {d d' : ValueDraft} {c : Char}
    (character : isXmlChar c = true) (text : XmlChars d.soFar)
    (next : d.step doctype standalone nested c = some d') : XmlChars d'.soFar := by
  rw [ValueDraft.step] at next
  split at next
  case h_1 soFar _ =>
    split at next
    · exact xmlChars_refer entities textual text next
    · cases next
      exact text
  case h_2 =>
    split_ifs at next
    · cases next
      exact text
    · cases next
      exact .cons (by decide) text
    · cases next
      exact .cons character text

theorem xmlChars_folded (entities : TextualEntities doctype.entities)
    (textual : TextualExpand nested) {text : List Char} (chars : XmlChars text)
    {d d' : ValueDraft} (init : XmlChars d.soFar)
    (done : text.foldlM (ValueDraft.step doctype standalone nested) d = some d') :
    XmlChars d'.soFar := by
  refine foldlM_keeps (P := fun d => XmlChars d.soFar) ?_ init done
  intro d held c inside d' next
  exact xmlChars_step entities textual (chars c inside) held next

/-- The value of a text when entities are read in the given way. -/
def expandWith (doctype : Doctype) (standalone : Bool) (nested : Expand) : Expand :=
  fun text allowance =>
    match text.foldlM (ValueDraft.step doctype standalone nested) ⟨[], none, allowance⟩ with
    | some ⟨soFar, none, left⟩ => some (soFar.reverse, left)
    | _ => none

theorem expandValue_zero (doctype : Doctype) (standalone : Bool) :
    expandValue doctype standalone 0 = expandWith doctype standalone fun _ _ => none := rfl

theorem expandValue_succ (doctype : Doctype) (standalone : Bool) (depth : Nat) :
    expandValue doctype standalone (depth + 1)
      = expandWith doctype standalone (expandValue doctype standalone depth) := rfl

theorem textual_expandWith (entities : TextualEntities doctype.entities)
    (textual : TextualExpand nested) : TextualExpand (expandWith doctype standalone nested) := by
  intro text allowance value left chars read
  unfold expandWith at read
  split at read
  case h_1 folded =>
    cases read
    exact (xmlChars_folded entities textual chars .nil folded).reverse
  case h_2 => cases read

/-- Entities are expanded to texts, however deep they stand in one another. -/
theorem textual_expandValue (entities : TextualEntities doctype.entities) (depth : Nat) :
    TextualExpand (expandValue doctype standalone depth) := by
  induction depth with
  | zero =>
    rw [expandValue_zero]
    exact textual_expandWith entities nofun
  | succ depth ih =>
    rw [expandValue_succ]
    exact textual_expandWith entities ih

/-- The value of a text is a text. -/
theorem xmlChars_attributeValue (entities : TextualEntities doctype.entities)
    {text value : List Char} {allowance left : Nat} (chars : XmlChars text)
    (read : attributeValue doctype standalone text allowance = some (value, left)) :
    XmlChars value :=
  textual_expandValue entities entityDepth _ allowance value left
    (xmlChars_joinLineEnds chars) read

end

end PrivilegeCatalog.Xml
