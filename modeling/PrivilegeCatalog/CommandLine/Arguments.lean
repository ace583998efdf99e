import PrivilegeCatalog.Text.Pieces

/-!
# Arguments of the command line

The words after the name of the program: options of the program, the name of a command, and
options of the command with its document in any order. An option with a value has the value after
a sign of equality, right after its letter, or as the next word, whatever that looks like. Letters
of options without a value may stand together, and two hyphens end the options. `Request.ofWords`
tells what is asked for.
-/

namespace PrivilegeCatalog.CommandLine

/-- What an option is for. -/
inductive Choice
  | verbose
  | version
  | help
  | format
  | settings
  | output
  deriving DecidableEq, Repr

/-- How an option is written, and whether it has a value. -/
structure Rule where
  choice : Choice
  long : String
  letter : Option Char := none
  hasValue : Bool := false

/-- The options of the program. -/
def programRules : List Rule :=
  [{ choice := .verbose, long := "--verbose", letter := some 'v' },
    { choice := .version, long := "--version" }, { choice := .help, long := "--help" }]

/-- The options of all commands. -/
def commandRules : List Rule :=
  [{ choice := .format, long := "--format", letter := some 'f', hasValue := true },
    { choice := .settings, long := "--config", letter := some 'c', hasValue := true },
    { choice := .help, long := "--help" }]

/-- The options of the command that formats. -/
def formatRules : List Rule :=
  { choice := .output, long := "--output", letter := some 'o', hasValue := true } :: commandRules

/-! ## Options -/

/-- What is known after some words: options with their values, in order, and the other words. -/
structure Sorted where
  options : List (Choice × String) := []
  words : List String := []
  deriving DecidableEq, Repr

/-- The options in one word, and the last of them if its value is the next word. -/
structure Opened where
  options : List (Choice × String) := []
  awaiting : Option Choice := none
  deriving DecidableEq, Repr

/-- Options by their letters. After an option with a value comes the value. -/
def letters? (rules : List Rule) : List Char → Option Opened
  | [] => some {}
  | c :: rest => do
    let rule ← rules.find? (·.letter == some c)
    if rule.hasValue then
      if rest.isEmpty then some { awaiting := some rule.choice }
      else some { options := [(rule.choice, String.ofList rest)] }
    else
      let others ← letters? rules rest
      some { others with options := (rule.choice, "") :: others.options }

/-- The parts of a word before and after its first sign of equality. -/
def splitValue (word : List Char) : String × Option String :=
  match word.dropWhile (· != '=') with
  | [] => (String.ofList word, none)
  | _ :: value => (String.ofList (word.takeWhile (· != '=')), some (String.ofList value))

/-- The options in a word that starts with a hyphen. -/
def opened? (rules : List Rule) (word : List Char) : Option Opened :=
  let (name, value) := splitValue word
  match rules.find? (·.long == name), value with
  | some rule, some value =>
    if rule.hasValue then some { options := [(rule.choice, value)] } else none
  | some rule, none =>
    if rule.hasValue then some { awaiting := some rule.choice }
    else some { options := [(rule.choice, "")] }
  | none, _ => if ['-', '-'].isPrefixOf word then none else letters? rules (word.drop 1)

/-- Whether a word holds options: a hyphen and more. -/
def isOption (word : String) : Bool :=
  match word.toList with
  | '-' :: _ :: _ => true
  | _ => false

/-- Words sorted into options and others. With `mixed` options may follow other words. -/
def sort? (rules : List Rule) (mixed : Bool) : List String → Option Sorted
  | [] => some {}
  | word :: rest =>
    if word = "--" then some { words := rest }
    else if isOption word then do
      let opened ← opened? rules word.toList
      match opened.awaiting, rest with
      | none, rest =>
        let sorted ← sort? rules mixed rest
        some { sorted with options := opened.options ++ sorted.options }
      | some choice, value :: rest =>
        let sorted ← sort? rules mixed rest
        some { sorted with options := opened.options ++ (choice, value) :: sorted.options }
      | some _, [] => none
    else if mixed then do
      let sorted ← sort? rules mixed rest
      some { sorted with words := word :: sorted.words }
    else some { words := word :: rest }

/-- Whether an option is chosen. -/
def Sorted.chooses (s : Sorted) (choice : Choice) : Bool := s.options.any (·.1 == choice)

/-- The last value of an option. -/
def Sorted.value? (s : Sorted) (choice : Choice) : Option String :=
  s.options.reverse.lookup choice

/-! ## Requests -/

/-- What is done with a document. -/
inductive Action
  | check
  | show
  | format (output : Option String)
  deriving DecidableEq, Repr

/-- A command: what is done with which document, and what is chosen for it. -/
structure Invocation where
  verbose : Bool := false
  action : Action
  document : String
  format : Option String := none
  settings : Option String := none
  deriving DecidableEq, Repr

/-- What is asked for. -/
inductive Request
  | version
  | help
  | misuse
  | run (invocation : Invocation)
  deriving DecidableEq, Repr

/-- The options of a command, and what it does when they are chosen. -/
def command? : String → Option (List Rule × (Sorted → Action))
  | "check" => some (commandRules, fun _ => .check)
  | "show" => some (commandRules, fun _ => .show)
  | "format" => some (formatRules, fun s => .format (s.value? .output))
  | _ => none

/-- The request of a command with the words after its name. -/
def Request.ofCommand (verbose : Bool) (name : String) (words : List String) : Request :=
  match command? name with
  | none => .misuse
  | some (rules, action) =>
    match sort? rules true words with
    | none => .misuse
    | some s =>
      if s.chooses .help then .help
      else
        match s.words with
        | [document] =>
          .run { verbose, action := action s, document, format := s.value? .format,
                 settings := s.value? .settings }
        | _ => .misuse

/-- The request of all words. Asking for the version or for help goes before everything but a
misuse of the program's own options. -/
def Request.ofWords (words : List String) : Request :=
  match sort? programRules false words with
  | none => .misuse
  | some s =>
    match s.options.find? fun (choice, _) => choice == .version || choice == .help with
    | some (.version, _) => .version
    | some _ => .help
    | none =>
      match s.words with
      | [] => .misuse
      | name :: rest => Request.ofCommand (s.chooses .verbose) name rest

end PrivilegeCatalog.CommandLine
