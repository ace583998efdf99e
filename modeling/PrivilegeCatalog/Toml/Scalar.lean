import PrivilegeCatalog.Toml.Token
import PrivilegeCatalog.Value

/-!
# Single values of a settings file

Truth values, numbers, dates and times. A date has to be one of the calendar; a number may hold
single underscores between its digits, and has no zeros before its first digit.
-/

namespace PrivilegeCatalog.Toml

/-- Why a settings file cannot be read: it is no TOML, or a number has more digits than are
taken. -/
inductive Fault
  | malformed
  | numberTooLong (digits : Nat)
  deriving DecidableEq, Repr

/-- A value and the characters after it. -/
abbrev Found := Value × List Char

/-! ## Dates and times -/

/-- The number of `n` decimal digits. -/
def digits? : (n : Nat) → List Char → Option (Nat × List Char)
  | 0, cs => some (0, cs)
  | n + 1, c :: rest =>
    if c.isDigit then (digits? n rest).map fun (m, more) =>
      ((c.toNat - 48) * Nat.pow 10 n + m, more) else none
  | _ + 1, [] => none

/-- The characters after a given one. -/
def after? (mark : Char) : List Char → Option (List Char)
  | c :: rest => if c == mark then some rest else none
  | [] => none

/-- A year has an extra day every four years, save for centuries that four hundred does not
divide. -/
def isLeapYear (year : Nat) : Bool := year % 4 == 0 && (year % 100 != 0 || year % 400 == 0)

/-- How many days a month has. -/
def daysOfMonth (year month : Nat) : Nat :=
  if month = 2 then if isLeapYear year then 29 else 28
  else if month = 4 ∨ month = 6 ∨ month = 9 ∨ month = 11 then 30
  else 31

/-- A date, and whether it is one of the calendar, which begins with the year 1. -/
def date? (cs : List Char) : Option (Bool × List Char) := do
  let (year, rest) ← digits? 4 cs
  let (month, rest) ← digits? 2 (← after? '-' rest)
  let (day, rest) ← digits? 2 (← after? '-' rest)
  if 1 ≤ month ∧ month ≤ 12 ∧ 1 ≤ day ∧ day ≤ 31 then
    some (1 ≤ year && day ≤ daysOfMonth year month, rest)
  else none

/-- Hours and minutes. -/
def hourMinute? (cs : List Char) : Option (List Char) := do
  let (hour, rest) ← digits? 2 cs
  let (minute, rest) ← digits? 2 (← after? ':' rest)
  if hour < 24 ∧ minute < 60 then some rest else none

/-- A time of day, with or without a fraction of a second. -/
def time? (cs : List Char) : Option (List Char) := do
  let (second, rest) ← digits? 2 (← after? ':' (← hourMinute? cs))
  if second < 60 then
    match rest with
    | '.' :: c :: more => some (if c.isDigit then more.dropWhile Char.isDigit else rest)
    | _ => some rest
  else none

/-- The characters after the distance of a time from the standard time, if it is told. -/
def skipOffset : List Char → List Char
  | 'Z' :: rest | 'z' :: rest => rest
  | c :: rest => if c == '+' || c == '-' then (hourMinute? rest).getD (c :: rest) else c :: rest
  | [] => []

/-- The characters after a time that follows a date, if one does. -/
def timeAfterDate? : List Char → Option (List Char)
  | c :: rest => if c == 'T' || c == 't' || c == ' ' then (time? rest).map skipOffset else none
  | [] => none

/-- A date, a date with a time, or a time; an answer without a value is a date that does not
exist. -/
def moment? (cs : List Char) : Option (Option Found) :=
  match date? cs with
  | some (false, _) => some none
  | some (true, rest) =>
    match timeAfterDate? rest with
    | some more => some (some (.moment .dateTime, more))
    | none => some (some (.moment .date, rest))
  | none => (time? cs).map fun rest => some (.moment .time, rest)

/-! ## Numbers -/

/-- Digits with single underscores between them; the first digit has been read. -/
def moreDigits (isDigit : Char → Bool) : List Char → List Char × List Char
  | '_' :: c :: rest =>
    if isDigit c then
      let (digits, more) := moreDigits isDigit rest
      (c :: digits, more)
    else ([], '_' :: c :: rest)
  | c :: rest =>
    if isDigit c then
      let (digits, more) := moreDigits isDigit rest
      (c :: digits, more)
    else ([], c :: rest)
  | [] => ([], [])

/-- One or more digits. -/
def digitRun? (isDigit : Char → Bool) : List Char → Option (List Char × List Char)
  | c :: rest =>
    if isDigit c then
      let (digits, more) := moreDigits isDigit rest
      some (c :: digits, more)
    else none
  | [] => none

/-- A digit in a base of at most sixteen. -/
def isDigitOf (base : Nat) (c : Char) : Bool :=
  match hexValue? [c] with
  | some n => n < base
  | none => false

/-- The number of digits in a base. -/
def numberOf (base : Nat) (digits : List Char) : Nat :=
  digits.foldl (fun n c => n * base + (hexValue? [c]).getD 0) 0

/-- A whole number in another base than ten. -/
def basedNumber? : List Char → Option Found
  | '0' :: mark :: rest => do
    let base ← [('x', 16), ('o', 8), ('b', 2)].lookup mark
    let (digits, more) ← digitRun? (isDigitOf base) rest
    some (.integer (numberOf base digits), more)
  | _ => none

/-- The whole part of a decimal number. -/
def wholePart? : List Char → Option (List Char × List Char)
  | '0' :: rest => some (['0'], rest)
  | cs => digitRun? Char.isDigit cs

/-- The digits of a fraction, if there is one. -/
def fraction? : List Char → Option (List Char × List Char)
  | '.' :: rest => digitRun? Char.isDigit rest
  | _ => none

/-- A sign, and the characters after it. -/
def sign : List Char → Bool × List Char
  | '-' :: rest => (true, rest)
  | '+' :: rest => (false, rest)
  | cs => (false, cs)

/-- An exponent, if there is one. -/
def exponent? : List Char → Option (Int × List Char)
  | c :: rest => do
    if c == 'e' || c == 'E' then
      let (negative, rest) := sign rest
      let (digits, more) ← digitRun? Char.isDigit rest
      let n := numberOf 10 digits
      some (if negative then -(n : Int) else n, more)
    else none
  | [] => none

/-- The double nearest to `digits * 10 ^ exponent`. Beyond four hundred places from the point a
number is zero or infinite. -/
def nearestDouble (digits : List Char) (exponent : Int) : Float :=
  let m := numberOf 10 digits
  if m = 0 ∨ exponent + digits.length < -400 then 0.0
  else if 400 < exponent then 1.0 / 0.0
  else Float.ofScientific m (exponent < 0) exponent.natAbs

/-- The most digits that a whole decimal number has. -/
def digitLimit : Nat := 4300

/-- A decimal number: whole, or with a fraction or an exponent. -/
def decimalNumber? (cs : List Char) : Option (Except Fault Found) := do
  let (negative, rest) := sign cs
  let (whole, rest) ← wholePart? rest
  let fraction := fraction? rest
  let (places, rest) := fraction.getD ([], rest)
  let exponent := exponent? rest
  if fraction.isNone && exponent.isNone then
    if digitLimit < whole.length then return .error (.numberTooLong whole.length)
    let n := numberOf 10 whole
    return .ok (.integer (if negative then -(n : Int) else n), rest)
  else
    let (e, rest) := exponent.getD (0, rest)
    let x := nearestDouble (whole ++ places) (e - places.length)
    return .ok (.real (if negative then -x else x), rest)

/-- Infinity, or no number. -/
def specialNumber? (cs : List Char) : Option Found :=
  let (negative, rest) := sign cs
  let signed := fun x : Float => if negative then -x else x
  match rest with
  | 'i' :: 'n' :: 'f' :: more => some (.real (signed (1.0 / 0.0)), more)
  | 'n' :: 'a' :: 'n' :: more => some (.real (signed (0.0 / 0.0)), more)
  | _ => none

/-- A truth value. -/
def truth? : List Char → Option Found
  | 't' :: 'r' :: 'u' :: 'e' :: rest => some (.boolean true, rest)
  | 'f' :: 'a' :: 'l' :: 's' :: 'e' :: rest => some (.boolean false, rest)
  | _ => none

/-- A value that has no parts. What may be a date is no number. -/
def scalar (cs : List Char) : Except Fault Found :=
  match text? cs with
  | some (s, rest) => .ok (.text s, rest)
  | none =>
    match truth? cs with
    | some found => .ok found
    | none =>
      match moment? cs with
      | some (some found) => .ok found
      | some none => .error .malformed
      | none =>
        match basedNumber? cs, decimalNumber? cs, specialNumber? cs with
        | some found, _, _ => .ok found
        | none, some outcome, _ => outcome
        | none, none, some found => .ok found
        | none, none, none => .error .malformed

end PrivilegeCatalog.Toml
