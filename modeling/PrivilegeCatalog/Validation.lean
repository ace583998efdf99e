import PrivilegeCatalog.Value
import PrivilegeCatalog.Text.LowerCase

/-!
# Validation of values

A value is taken as a field of some type, or issues are raised, each with the path of the value
that it is about. All fields of a record are checked and their issues are told together.
-/

namespace PrivilegeCatalog

/-- A step on the way from a record to a value inside it. -/
inductive PathStep
  | key (name : String)
  | index (n : Nat)
  deriving DecidableEq, Repr

/-- What is wrong with a value. -/
inductive Complaint
  | missing
  | notText
  | notBoolean
  | unreadableBoolean
  | notSequence
  | notDictionary
  | notRecord (type : String)
  | refused (reason : String)
  | frozen
  deriving DecidableEq, Repr

namespace Complaint

/-- The word for a complaint. -/
def code : Complaint → String
  | missing => "missing"
  | notText => "string_type"
  | notBoolean => "bool_type"
  | unreadableBoolean => "bool_parsing"
  | notSequence => "tuple_type"
  | notDictionary => "dict_type"
  | notRecord _ => "model_type"
  | refused _ => "value_error"
  | frozen => "frozen_instance"

/-- The wording of a complaint. -/
def message : Complaint → String
  | missing => "Field required"
  | notText => "Input should be a valid string"
  | notBoolean => "Input should be a valid boolean"
  | unreadableBoolean => "Input should be a valid boolean, unable to interpret input"
  | notSequence => "Input should be a valid tuple"
  | notDictionary => "Input should be a valid dictionary"
  | notRecord type => "Input should be a valid dictionary or instance of " ++ type
  | refused reason => "Value error, " ++ reason
  | frozen => "Instance is frozen"

end Complaint

/-- A complaint about the value at a path. -/
structure Issue where
  path : List PathStep
  complaint : Complaint
  deriving DecidableEq, Repr

/-- The same issue seen from a record that holds the value under the given step. -/
def Issue.under (step : PathStep) (issue : Issue) : Issue :=
  { issue with path := step :: issue.path }

/-- A value of some type, or what is wrong; of several checks all issues are kept, in order. -/
abbrev Checked (α : Type) := Except (List Issue) α

namespace Checked

variable {α β : Type}

/-- One complaint about the value itself. -/
def complain (c : Complaint) : Checked α := .error [⟨[], c⟩]

/-- A check of the value under a step. -/
def under (step : PathStep) (check : Checked α) : Checked α :=
  check.mapError (·.map (·.under step))

/-- Both answers, or the issues of both. -/
def both (first : Checked α) (second : Checked β) : Checked (α × β) :=
  match first, second with
  | .ok a, .ok b => .ok (a, b)
  | .ok _, .error issues => .error issues
  | .error issues, .ok _ => .error issues
  | .error issues, .error more => .error (issues ++ more)

/-- All answers, or the issues of all. -/
def all : List (Checked α) → Checked (List α)
  | [] => .ok []
  | check :: rest => (both check (all rest)).map fun (a, more) => a :: more

end Checked

namespace Value

/-- A text. -/
def asText : Value → Checked String
  | text s => .ok s
  | _ => .error [⟨[], .notText⟩]

/-- The words for truth values, in lower case. -/
def booleanWords : List (String × Bool) :=
  [("0", false), ("off", false), ("f", false), ("false", false), ("n", false), ("no", false),
    ("1", true), ("on", true), ("t", true), ("true", true), ("y", true), ("yes", true)]

/-- Zero and one among the numbers of a machine word. -/
def asBooleanNumber (n : Int) : Checked Bool :=
  if n = 0 then .ok false
  else if n = 1 then .ok true
  else if -9223372036854775808 ≤ n ∧ n ≤ 9223372036854775807 then
    .error [⟨[], .unreadableBoolean⟩]
  else .error [⟨[], .notBoolean⟩]

/-- A truth value: one itself, zero or one, or one of the words in any case. -/
def asBoolean : Value → Checked Bool
  | boolean b => .ok b
  | integer n => asBooleanNumber n
  | real x =>
    if x == x.floor && x.abs < 9223372036854775808.0 then asBooleanNumber x.toInt64.toInt
    else .error [⟨[], .notBoolean⟩]
  | text s =>
    match booleanWords.lookup (Text.foldAscii s) with
    | some b => .ok b
    | none => .error [⟨[], .unreadableBoolean⟩]
  | _ => .error [⟨[], .notBoolean⟩]

/-- A sequence of texts. -/
def asTexts : Value → Checked (List String)
  | list items =>
    Checked.all (items.mapIdx fun i item => item.asText.under (.index i))
  | _ => .error [⟨[], .notSequence⟩]

/-- A field of a record; `absent` is what stands for it when the record has none of that name. -/
def field {α : Type} (entries : List (String × Value)) (key : String) (check : Value → Checked α)
    (absent : Checked α) : Checked α :=
  match entry? key entries with
  | some v => (check v).under (.key key)
  | none => absent.under (.key key)

end Value

end PrivilegeCatalog
