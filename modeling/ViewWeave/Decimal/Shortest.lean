import ViewWeave.Decimal.Binary

/-!
# The shortest digits of a double

Of the decimals that round to a given double, those with the fewest digits, and of these the
nearest. For each digit count only the two neighbours of the exact value on the decimal grid are
tested, in whole numbers.
-/

namespace ViewWeave.Decimal

structure Digits where
  digits : Nat
  exponent : Int
  deriving DecidableEq, Repr

/-- The decimals that round to a double: between `low / den` and `high / den`, around
`num / den`. -/
structure Interval where
  num : Nat
  den : Nat
  low : Nat
  high : Nat
  closed : Bool

/-- The interval of the double with these parts; a mantissa that is even owns its ends. -/
def Interval.of (p : Parts) : Interval :=
  let unit := Nat.pow 2 p.exponent.toNat
  { num := 4 * p.mantissa * unit
    den := 4 * Nat.pow 2 (-p.exponent).toNat
    low := (4 * p.mantissa - (if p.narrowBelow then 1 else 2)) * unit
    high := (4 * p.mantissa + 2) * unit
    closed := p.mantissa % 2 == 0 }

/-- The interval seen on the grid of step `10^g`: its whole numbers are the grid's points. -/
def Interval.onGrid (v : Interval) (g : Int) : Interval :=
  let up := Nat.pow 10 (-g).toNat
  { v with
    num := v.num * up
    den := v.den * Nat.pow 10 g.toNat
    low := v.low * up
    high := v.high * up }

def Interval.holds (v : Interval) (d : Nat) : Bool :=
  if v.closed then v.low ≤ d * v.den && d * v.den ≤ v.high
  else v.low < d * v.den && d * v.den < v.high

/-- The whole number in the interval that is nearest to its middle, among the two neighbours of
the middle; a tie goes to the even one. -/
def Interval.nearest? (v : Interval) : Option Nat :=
  let d := v.num / v.den
  let near := roundDiv v.num v.den
  if v.holds near then some near
  else if v.holds d then some d
  else if v.holds (d + 1) then some (d + 1)
  else none

def leadingExponent (num den : Nat) : Int :=
  if den ≤ num then ((Nat.toDigits 10 (num / den)).length : Int) - 1
  else -((Nat.toDigits 10 ((den - 1) / num)).length : Int)

/-- `d` without its zeros at the end, each of them added to the exponent. -/
def dropZeros : Nat → Nat → Int → Digits
  | 0, d, e => ⟨d, e⟩
  | fuel + 1, d, e => if d % 10 = 0 ∧ d ≠ 0 then dropZeros fuel (d / 10) (e + 1) else ⟨d, e⟩

def shortest (p : Parts) : Digits :=
  let v := Interval.of p
  let e := leadingExponent v.num v.den
  let found := (List.range 17).findSome? fun (n : Nat) =>
    ((v.onGrid (e - n)).nearest?).map fun d => (d, e - (n : Int))
  match found with
  | some (d, g) => dropZeros 20 d g
  | none => ⟨0, 0⟩

end ViewWeave.Decimal
