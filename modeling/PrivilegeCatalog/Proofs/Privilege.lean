import PrivilegeCatalog.Proofs.Logged
import PrivilegeCatalog.Proofs.Names

/-!
# Privileges from fields

A privilege is made of the fields that a caller gives when each of them has the right form
(`Privilege.ofFields_eq_ok`). Its names are then the texts that were given for them, and no others
(`Privilege.isGiven_iff`).
-/

namespace PrivilegeCatalog

variable {α β : Type}

/-! ## Checks -/

namespace Checked

theorem bind_eq_ok {check : Checked α} {f : α → Checked β} {b : β} :
    check >>= f = .ok b ↔ ∃ a, check = .ok a ∧ f a = .ok b := by
  cases check with
  | error issues => exact iff_of_false nofun nofun
  | ok a => exact ⟨fun done => ⟨a, rfl, done⟩, fun ⟨_, same, done⟩ => Except.ok.inj same ▸ done⟩

theorem both_eq_ok {first : Checked α} {second : Checked β} {pair : α × β} :
    both first second = .ok pair ↔ first = .ok pair.1 ∧ second = .ok pair.2 := by
  cases first with
  | error issues => cases second <;> exact iff_of_false nofun nofun
  | ok a =>
    cases second with
    | error issues => exact iff_of_false nofun nofun
    | ok b =>
      constructor
      · intro done
        cases done
        exact ⟨rfl, rfl⟩
      · rintro ⟨same, same'⟩
        rw [both, Except.ok.inj same, Except.ok.inj same']

theorem map_eq_ok {check : Checked α} {f : α → β} {b : β} :
    check.map f = .ok b ↔ ∃ a, check = .ok a ∧ f a = b := by
  cases check with
  | error issues => exact iff_of_false nofun nofun
  | ok a => simp [Except.map]

end Checked

namespace Value

theorem asText_eq_ok {v : Value} {s : String} : v.asText = .ok s ↔ v = .text s := by
  cases v with
  | text given =>
    rw [asText, Except.ok.injEq]
    exact ⟨fun same => congrArg text same, fun same => Value.text.inj same⟩
  | _ => exact iff_of_false nofun nofun

/-- The check of a field passes a value that is there, or what stands for a missing one. -/
theorem field_eq_ok {entries : List (String × Value)} {key : String} {check : Value → Checked α}
    {absent : Checked α} {a : α} :
    field entries key check absent = .ok a ↔
      (∃ v, entry? key entries = some v ∧ check v = .ok a)
        ∨ entry? key entries = none ∧ absent = .ok a := by
  unfold field
  cases entry? key entries with
  | some v => simp [Checked.under, Logged.mapError_eq_ok]
  | none => simp [Checked.under, Logged.mapError_eq_ok]

/-- A list is a sequence of texts when all of its items are texts. -/
theorem asTexts_eq_ok {v : Value} {texts : List String} :
    v.asTexts = .ok texts ↔ v = .list (texts.map .text) := by
  -- The path under which an item is checked plays no part in it.
  have items_ok : ∀ (items : List Value) (texts : List String) (step : Nat → PathStep),
      Checked.all (items.mapIdx fun i item => item.asText.under (step i)) = .ok texts
        ↔ items = texts.map .text := by
    intro items
    induction items with
    | nil =>
      intro texts step
      rw [List.mapIdx_nil, Checked.all, Except.ok.injEq, eq_comm, eq_comm (a := []),
        List.map_eq_nil_iff]
    | cons item rest ih =>
      intro texts step
      rw [List.mapIdx_cons, Checked.all, Checked.map_eq_ok]
      simp only [Checked.both_eq_ok, Checked.under, Logged.mapError_eq_ok, asText_eq_ok,
        Prod.exists]
      constructor
      · rintro ⟨text, more, ⟨rfl, others⟩, rfl⟩
        rw [(ih more _).mp others, List.map_cons]
      · intro same
        cases texts with
        | nil => cases same
        | cons text more =>
          obtain ⟨first, others⟩ := List.cons.inj same
          exact ⟨text, more, ⟨first, (ih more _).mpr others⟩, rfl⟩
  cases v with
  | list items => simp only [asTexts, items_ok, list.injEq]
  | _ => exact iff_of_false nofun nofun

end Value

namespace Privilege

variable {entries : List (String × Value)} {p : Privilege}

theorem checkName_eq_ok {text : String} {name : Name} :
    checkName text = .ok name ↔ name.text = text := by
  rw [← Name.ofText_eq_ok, checkName]
  cases Name.ofText text with
  | ok made => simp
  | error fault => exact iff_of_false nofun nofun

theorem checkNames_eq_ok {texts : List String} {names : List Name} :
    checkNames texts = .ok names ↔ names.map Name.text = texts := by
  induction texts generalizing names with
  | nil => rw [checkNames, List.map_eq_nil_iff, Except.ok.injEq, eq_comm]
  | cons text rest ih =>
    rw [checkNames, Checked.bind_eq_ok]
    simp only [Checked.bind_eq_ok, checkName_eq_ok, ih]
    constructor
    · rintro ⟨name, rfl, others, rfl, made⟩
      cases made
      rfl
    · intro same
      cases names with
      | nil => cases same
      | cons name others =>
        obtain ⟨first, later⟩ := List.cons.inj same
        exact ⟨name, first, others, later, rfl⟩

/-- A null stands for no members, and a list of texts for those of which it holds the names. -/
theorem checkMembers_eq_ok {v : Value} {members : List Name} :
    checkMembers v = .ok members ↔
      v = .null ∧ members = [] ∨ v = .list (members.map fun name => .text name.text) := by
  cases v with
  | null => simp [checkMembers, eq_comm]
  | _ =>
    simp only [checkMembers, Checked.bind_eq_ok, Value.asTexts_eq_ok, checkNames_eq_ok]
    simp [Function.comp_def]

/-- A privilege is made of its name, of the value that says whether it is abstract, and of the
names of its members, where nothing and a null both stand for none. -/
theorem ofFields_eq_ok : ofFields entries = .ok p ↔
    Value.entry? "name" entries = some (.text p.name.text)
      ∧ Value.field entries "is_abstract" Value.asBoolean (.ok false) = .ok p.isAbstract
      ∧ ((Value.entry? "aggregates" entries = none
            ∨ Value.entry? "aggregates" entries = some .null) ∧ p.members = []
          ∨ Value.entry? "aggregates" entries
            = some (.list (p.members.map fun name => .text name.text))) := by
  have named : Value.field entries "name" (fun v => v.asText >>= checkName)
      (Checked.complain .missing) = .ok p.name
        ↔ Value.entry? "name" entries = some (.text p.name.text) := by
    simp only [Value.field_eq_ok, Checked.bind_eq_ok, Value.asText_eq_ok, checkName_eq_ok]
    simp [Checked.complain]
  have listed : Value.field entries "aggregates" checkMembers (.ok []) = .ok p.members
      ↔ (Value.entry? "aggregates" entries = none
            ∨ Value.entry? "aggregates" entries = some .null) ∧ p.members = []
          ∨ Value.entry? "aggregates" entries
            = some (.list (p.members.map fun name => .text name.text)) := by
    simp only [Value.field_eq_ok, checkMembers_eq_ok, Except.ok.injEq]
    cases Value.entry? "aggregates" entries with
    | none => simp [eq_comm]
    | some v => simp
  rw [← named, ← listed, ofFields, Checked.map_eq_ok]
  simp only [Checked.both_eq_ok]
  constructor
  · rintro ⟨⟨name, isAbstract, members⟩, parts, rfl⟩
    exact parts
  · exact fun parts => ⟨(p.name, p.isAbstract, p.members), parts, rfl⟩

/-- A text that is given for a name of a privilege: for its own, or for that of a member. -/
inductive IsGiven (entries : List (String × Value)) (text : String) : Prop
  | own (value : Value.entry? "name" entries = some (.text text))
  | member (items : List Value) (value : Value.entry? "aggregates" entries = some (.list items))
      (inside : .text text ∈ items)

/-- The names of a privilege are the texts that were given for them. -/
theorem isGiven_iff (made : ofFields entries = .ok p) {text : String} :
    IsGiven entries text ↔ ∃ name ∈ p.names, name.text = text := by
  obtain ⟨own, -, listed⟩ := ofFields_eq_ok.mp made
  constructor
  · intro given
    rcases given with value | ⟨items, value, inside⟩
    · rw [own] at value
      cases value
      exact ⟨p.name, List.mem_cons_self .., rfl⟩
    · rcases listed with ⟨nothing | null, -⟩ | listed
      · cases nothing.symm.trans value
      · cases null.symm.trans value
      · cases listed.symm.trans value
        obtain ⟨name, member, same⟩ := List.mem_map.mp inside
        exact ⟨name, List.mem_cons_of_mem _ member, Value.text.inj same⟩
  · rintro ⟨name, named, rfl⟩
    rcases List.mem_cons.mp named with rfl | member
    · exact .own own
    · rcases listed with ⟨-, none_⟩ | listed
      · rw [none_] at member
        exact (List.not_mem_nil member).elim
      · exact .member _ listed (List.mem_map.mpr ⟨name, member, rfl⟩)

end Privilege

end PrivilegeCatalog
