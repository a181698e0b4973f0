import ViewWeave.Helper.Basic
import ViewWeave.Decimal.Style

/-!
# Demo helpers

The helpers that the bundled views use: the name of the application, a number that changes with
each start, sums, and amounts of money.
-/

namespace ViewWeave.Demo

def number (helper name : String) (args : Fields) : Except String Number :=
  match args.get? name with
  | some (.num n) => .ok n
  | _ => .error s!"`{helper}` expects a numeric `{name}` argument"

/-- The sum of two numbers: whole if both are signed whole numbers, else a double. A whole sum wraps
around at the ends of the signed numbers. -/
def sum (a b : Number) : Value :=
  match a.signed?, b.signed? with
  | some i, some j => .ofInt (Int.bmod (i + j) Decimal.words)
  | _, _ => .ofFloat (a.toFloat + b.toFloat)

def add (args : Fields) : Except String Value := do
  let a ← number "add" "a" args
  let b ← number "add" "b" args
  return sum a b

def amount (n : Number) : String := String.ofList ('$' :: Decimal.fixed 2 n.toFloat)

def dollarFormat (args : Fields) : Except String Value := do
  let n ← number "dollar_format" "amount" args
  return .str (amount n)

/-- The demo helpers of a program that was started at second `start`. -/
def helpers (start : Int) : Helpers :=
  Helpers.empty
    |>.register "app_name" (.const (.str "Trellis") false)
    |>.register "cache_buster" (.const (.ofInt start) false)
    |>.register "add" ⟨false, add⟩
    |>.register "dollar_format" ⟨false, dollarFormat⟩

end ViewWeave.Demo
