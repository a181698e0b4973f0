import ViewWeave.Decimal.Remainder
import ViewWeave.Render.Fault

/-!
# Arithmetic

Whole numbers are reckoned exactly as long as both fit the signed or both the unsigned ones, and
must stay there. All else is reckoned with doubles, and division always is.
-/

namespace ViewWeave.Number

def ofFinite? (x : Float) : Option Number := if x.isFinite then some (.float x) else none

/-- Reckons with whole numbers where both are signed or both are unsigned, and else with
doubles. -/
def reckon (sign : String) (whole : Int → Int → Int) (double : Float → Float → Float)
    (a b : Number) : Except Fault (Option Number) :=
  match a.signed?, b.signed?, a.unsigned?, b.unsigned? with
  | some i, some j, _, _ =>
    let k := whole i j
    if minSigned ≤ k ∧ k ≤ maxSigned then .ok (some (.int k))
    else .error (.outOfBounds i sign j "i64")
  | _, _, some i, some j =>
    let k := whole i j
    if 0 ≤ k ∧ k ≤ maxUnsigned then .ok (some (.int k)) else .error (.outOfBounds i sign j "u64")
  | _, _, _, _ => .ok (ofFinite? (double a.toFloat b.toFloat))

/-- The quotient as a double, or as a whole number if it is one. -/
def quotient (a b : Number) : Option Number :=
  -- a whole double beyond the signed numbers is cut to the last of them
  let x := a.toFloat / b.toFloat
  if x.isFinite && x.round == x then some (.int x.toInt64.toInt) else ofFinite? x

/-- The remainder of a division that cuts toward zero; `fault` is for whole numbers divided by
zero. -/
def remainder (fault : Fault) (a b : Number) : Except Fault (Option Number) :=
  if (a.signed?.isSome && b.signed?.isSome) || (a.unsigned?.isSome && b.unsigned?.isSome) then
    match a, b with
    | .int i, .int j => if j = 0 then .error fault else .ok (some (.int (i.tmod j)))
    | _, _ => .ok none
  else .ok (ofFinite? (Decimal.remainder a.toFloat b.toFloat))

/-- The result of an operator; there is none where it is no number. -/
def arith (op : ArithOp) (fault : Fault) (a b : Number) : Except Fault (Option Number) :=
  match op with
  | .add => reckon "+" (· + ·) (· + ·) a b
  | .sub => reckon "-" (· - ·) (· - ·) a b
  | .mul => reckon "x" (· * ·) (· * ·) a b
  | .div => .ok (quotient a b)
  | .rem => remainder fault a b

def compares (op : LogicOp) (a b : Number) : Bool :=
  match op with
  | .gt => a.toFloat > b.toFloat
  | .ge => a.toFloat ≥ b.toFloat
  | .lt => a.toFloat < b.toFloat
  | .le => a.toFloat ≤ b.toFloat
  | _ => false

end ViewWeave.Number
