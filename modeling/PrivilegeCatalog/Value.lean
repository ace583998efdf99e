import PrivilegeCatalog.Text.Decimal
import PrivilegeCatalog.Text.Quoted

/-!
# Values

Values as they come from outside, before a privilege, a layout or a setting has been made of them:
from a settings file, or as the fields that a caller gives. `Value.display` is how a value is
shown where it takes the place of a name.
-/

namespace PrivilegeCatalog

/-- The kinds of dates and times that a settings file can hold. -/
inductive Moment
  | dateTime
  | date
  | time
  deriving DecidableEq, Repr

/-- A value of unknown type. The entries of a record keep their order. -/
inductive Value
  | null
  | boolean (b : Bool)
  | integer (n : Int)
  | real (x : Float)
  | text (s : String)
  | list (items : List Value)
  | record (entries : List (String × Value))
  | moment (kind : Moment)
  deriving Inhabited

namespace Value

/-- The word for the type of a value in a message. -/
def kindName : Value → String
  | null => "NoneType"
  | boolean _ => "bool"
  | integer _ => "int"
  | real _ => "float"
  | text _ => "str"
  | list _ => "list"
  | record _ => "dict"
  | moment .dateTime => "datetime.datetime"
  | moment .date => "datetime.date"
  | moment .time => "datetime.time"

/-- The first entry of a record under a key. -/
def entry? (key : String) (entries : List (String × Value)) : Option Value :=
  (entries.find? (·.1 == key)).map (·.2)

mutual

/-- A value inside a list or a record: texts are quoted. -/
def nested : Value → String
  | null => "None"
  | boolean true => "True"
  | boolean false => "False"
  | integer n => toString n
  | real x => Text.decimal x
  | text s => Text.quoted s
  | list items => "[" ++ ", ".intercalate (nestedItems items) ++ "]"
  | record entries => "\x7b" ++ ", ".intercalate (nestedEntries entries) ++ "\x7d"
  | moment _ => ""

def nestedItems : List Value → List String
  | [] => []
  | v :: rest => nested v :: nestedItems rest

def nestedEntries : List (String × Value) → List String
  | [] => []
  | (key, v) :: rest => (Text.quoted key ++ ": " ++ nested v) :: nestedEntries rest

end

/-- A value as it is shown by itself: a text is shown as it stands. -/
def display : Value → String
  | text s => s
  | v => v.nested

end Value

end PrivilegeCatalog
