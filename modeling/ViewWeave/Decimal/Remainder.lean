import ViewWeave.Decimal.Binary

/-!
# Remainders of doubles

The remainder of a division whose quotient is cut toward zero. It is exact: of two doubles both
are brought to the smaller exponent and divided as whole numbers.
-/

namespace ViewWeave.Decimal

/-- The double `± m · 2^q`. -/
def ofParts (negative : Bool) (m : Nat) (q : Int) : Float :=
  let x := ofRatio (m * Nat.pow 2 q.toNat) (Nat.pow 2 (-q).toNat)
  if negative then -x else x

/-- The remainder of `x` divided by `y`, with the sign of `x`. -/
def remainder (x y : Float) : Float :=
  match Parts.of? x, Parts.of? y with
  | some p, some d =>
    if d.mantissa = 0 then Float.ofBits 0x7FF8000000000000
    else
      let q := min p.exponent d.exponent
      let m := p.mantissa * Nat.pow 2 (p.exponent - q).toNat
      let n := d.mantissa * Nat.pow 2 (d.exponent - q).toNat
      ofParts p.negative (m % n) q
  | some _, none => if y.isNaN then y else x
  | none, _ => Float.ofBits 0x7FF8000000000000

end ViewWeave.Decimal
