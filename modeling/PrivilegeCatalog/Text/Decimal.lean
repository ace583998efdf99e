/-!
# Shortest decimal text of a binary number

A finite double is `m * 2 ^ q`. Its text has the fewest significant digits that no other double is
nearer to, and of several such numbers the nearest. The digits are found on the decimal grids of
one, two, … seventeen digits, in exact arithmetic, among the two neighbours of the value on each
grid.
-/

namespace PrivilegeCatalog.Text

/-- A positive rational number `num / den`. -/
structure Ratio where
  num : Nat
  den : Nat

/-- `m * base ^ e` as a rational number. -/
def Ratio.scale (m base : Nat) (e : Int) : Ratio :=
  if 0 ≤ e then ⟨m * Nat.pow base e.toNat, 1⟩ else ⟨m, Nat.pow base (-e).toNat⟩

def Ratio.le (a b : Ratio) : Bool := a.num * b.den ≤ b.num * a.den

def Ratio.lt (a b : Ratio) : Bool := a.num * b.den < b.num * a.den

/-- A positive double: its significand, its exponent, and whether the double below is nearer than
the one above. -/
structure Binary where
  significand : Nat
  exponent : Int
  narrowBelow : Bool

/-- The reals nearer to the double than to its neighbours lie between these two. -/
def Binary.bounds (b : Binary) : Ratio × Ratio :=
  let m := 4 * b.significand
  (Ratio.scale (m - (if b.narrowBelow then 1 else 2)) 2 (b.exponent - 2),
    Ratio.scale (m + 2) 2 (b.exponent - 2))

/-- Both bounds read back as the double when its significand is even. -/
def Binary.covers (b : Binary) (x : Ratio) : Bool :=
  let (low, high) := b.bounds
  if b.significand % 2 = 0 then low.le x && x.le high else low.lt x && x.lt high

/-- The least `e` with `r < 10 ^ e`, sought upwards from `start`. -/
def Ratio.decimalExponent (r : Ratio) : (steps : Nat) → (start : Int) → Int
  | 0, start => start
  | steps + 1, start =>
    if r.lt (Ratio.scale 1 10 start) then start else r.decimalExponent steps (start + 1)

/-- The point of the grid of step `10 ^ e` that stands for the double, if one does. -/
def Binary.onGrid (b : Binary) (e : Int) : Option Nat :=
  let value := Ratio.scale b.significand 2 b.exponent
  let unit := Ratio.scale 1 10 e
  let below := (value.num * unit.den) / (value.den * unit.num)
  let rest := (value.num * unit.den) % (value.den * unit.num)
  let point := fun n : Nat => Ratio.scale n 10 e
  match b.covers (point below), b.covers (point (below + 1)) with
  | true, true =>
    let twice := 2 * rest
    let whole := value.den * unit.num
    some (if twice < whole ∨ (twice = whole ∧ below % 2 = 0) then below else below + 1)
  | true, false => some below
  | false, true => some (below + 1)
  | false, false => none

/-- The shortest number of digits, and the exponent of the grid that it lies on. -/
def Binary.shortest (b : Binary) : Nat × Int :=
  let value := Ratio.scale b.significand 2 b.exponent
  let top := value.decimalExponent 700 (-330)
  let grids := (List.range 17).map fun (k : Nat) => top - 1 - Int.ofNat k
  match grids.findSome? fun e => (b.onGrid e).map (·, e) with
  | some found => found
  | none => (b.significand, b.exponent)

/-- Digits without the zeros at their end, each of which raises the exponent. -/
def trimZeros : List Char → Int → List Char × Int
  | digits, e =>
    let zeros := (digits.reverse.takeWhile (· == '0')).length
    (digits.take (digits.length - zeros), e + zeros)

/-- Positional between `10 ^ -4` and `10 ^ 16`, with an exponent of at least two digits
elsewhere. -/
def layOut (digits : List Char) (point : Int) : List Char :=
  if -4 < point ∧ point ≤ 16 then
    if point ≤ 0 then '0' :: '.' :: (List.replicate (-point).toNat '0' ++ digits)
    else
      let whole := point.toNat
      let padded := digits ++ List.replicate (whole - digits.length) '0'
      let fraction := padded.drop whole
      padded.take whole ++ '.' :: (if fraction.isEmpty then ['0'] else fraction)
  else
    let e := point - 1
    let size := (toString e.natAbs).toList
    let mantissa := match digits with
      | [] => ['0']
      | [d] => [d]
      | d :: more => d :: '.' :: more
    mantissa ++ 'e' :: (if e < 0 then '-' else '+')
      :: (if size.length < 2 then '0' :: size else size)

/-- The text of a double. -/
def decimal (x : Float) : String :=
  let bits := x.toBits.toNat
  let negative := bits >>> 63 = 1
  let biased : Nat := (bits >>> 52) % 2048
  let fraction : Nat := bits % (1 <<< 52)
  let sign := if negative then "-" else ""
  if biased = 2047 then
    if fraction = 0 then sign ++ "inf" else "nan"
  else if biased = 0 ∧ fraction = 0 then sign ++ "0.0"
  else
    let b : Binary :=
      if biased = 0 then ⟨fraction, -1074, false⟩
      else ⟨(1 <<< 52) + fraction, Int.ofNat biased - 1075, fraction == 0 && 1 < biased⟩
    let (n, e) := b.shortest
    let (digits, e) := trimZeros (toString n).toList e
    sign ++ String.ofList (layOut digits (e + digits.length))

end PrivilegeCatalog.Text
