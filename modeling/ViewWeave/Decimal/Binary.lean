/-!
# Doubles as exact fractions

A finite double is `± m · 2^q` with natural `m`. In the other direction a fraction is rounded to
the nearest double, a tie going to the even one.
-/

namespace ViewWeave.Decimal

def words : Nat := 18446744073709551616

def fractions : Nat := 4503599627370496

structure Parts where
  negative : Bool
  mantissa : Nat
  exponent : Int
  /-- Whether the next double below is nearer than the next one above. -/
  narrowBelow : Bool
  deriving DecidableEq, Repr

def Parts.ofBits? (bits : UInt64) : Option Parts :=
  let n : Nat := bits.toNat
  let field : Nat := n / fractions % 2048
  let fraction : Nat := n % fractions
  let negative := n / (2048 * fractions) == 1
  if field = 2047 then none
  else if field = 0 then some ⟨negative, fraction, -1074, false⟩
  else some ⟨negative, fraction + fractions, (field : Int) - 1075, fraction == 0 && field > 1⟩

def Parts.of? (x : Float) : Option Parts := Parts.ofBits? x.toBits

/-- The nearest whole number to `num / den`, a tie going to the even one. -/
def roundDiv (num den : Nat) : Nat :=
  let q := num / den
  let r := num % den
  if 2 * r < den then q
  else if 2 * r > den then q + 1
  else if q % 2 = 0 then q else q + 1

/-- The bits of the double nearest to `num / den`, where `den` is not zero. -/
def bitsOfRatio (num den : Nat) : Nat :=
  if num = 0 then 0
  else
    -- `2^(e-1) < num / den < 2^(e+1)`
    let e : Int := (Nat.log2 num : Int) - Nat.log2 den
    let atLeast : Bool :=
      if e ≥ 0 then den * Nat.pow 2 e.toNat ≤ num else den ≤ num * Nat.pow 2 (-e).toNat
    let top : Int := if atLeast then e else e - 1
    let q : Int := max (top - 52) (-1074)
    let m :=
      if q ≥ 0 then roundDiv num (den * Nat.pow 2 q.toNat)
      else roundDiv (num * Nat.pow 2 (-q).toNat) den
    let bits := m + (q + 1074).toNat * fractions
    if bits < 2047 * fractions then bits else 2047 * fractions

def ofRatio (num den : Nat) : Float := Float.ofBits (bitsOfRatio num den).toUInt64

/-- The double nearest to `digits · 10^exponent`; beyond the doubles it is infinity or zero. -/
def ofDecimal (digits : Nat) (exponent : Int) : Float :=
  if digits = 0 then 0.0
  else if exponent > 400 then Float.ofBits 0x7FF0000000000000
  else if exponent ≥ 0 then ofRatio (digits * Nat.pow 10 exponent.toNat) 1
  else if (Nat.toDigits 10 digits).length + 400 < (-exponent).toNat then 0.0
  else ofRatio digits (Nat.pow 10 (-exponent).toNat)

def ofInt (i : Int) : Float :=
  if i < 0 then -ofRatio i.natAbs 1 else ofRatio i.natAbs 1

end ViewWeave.Decimal
