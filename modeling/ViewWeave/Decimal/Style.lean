import ViewWeave.Decimal.Shortest

/-!
# Number text

How whole numbers and doubles are written. A style holds what the written forms differ in.
-/

namespace ViewWeave.Decimal

def natText (n : Nat) : List Char := Nat.toDigits 10 n

def intText (i : Int) : List Char :=
  if i < 0 then '-' :: natText i.natAbs else natText i.natAbs

/-- What the written forms of doubles differ in. -/
structure Style where
  pointZero : Bool
  /-- The exponents of the leading digit that are written without an exponent part, if not all. -/
  positional? : Option (Int × Int)
  plus : Bool

/-- The form of printed values: shortest digits, no exponent, no empty fraction. -/
def Style.plain : Style := ⟨false, none, false⟩

/-- The form of data text: a fraction always, and an exponent part for the very large and small. -/
def Style.data : Style := ⟨true, some (-5, 15), true⟩

/-- The form in outlines of expressions. -/
def Style.outline : Style := ⟨true, some (-4, 15), false⟩

def positional (pointZero : Bool) (d : Digits) : List Char :=
  let ds := natText d.digits
  if d.exponent ≥ 0 then
    ds ++ List.replicate d.exponent.toNat '0' ++ (if pointZero then ['.', '0'] else [])
  else
    let places := (-d.exponent).toNat
    if ds.length > places then ds.take (ds.length - places) ++ '.' :: ds.drop (ds.length - places)
    else '0' :: '.' :: (List.replicate (places - ds.length) '0' ++ ds)

def scientific (plus : Bool) (d : Digits) : List Char :=
  let ds := natText d.digits
  let e : Int := d.exponent + ds.length - 1
  let point := if ds.length > 1 then '.' :: ds.drop 1 else []
  let sign := if e < 0 then ['-'] else if plus then ['+'] else []
  ds.take 1 ++ point ++ 'e' :: (sign ++ natText e.natAbs)

def Style.text (style : Style) (x : Float) : List Char :=
  match Parts.of? x with
  | none =>
    if x.isNaN then ['N', 'a', 'N']
    else if x < 0 then ['-', 'i', 'n', 'f']
    else ['i', 'n', 'f']
  | some p =>
    let body :=
      if p.mantissa = 0 then '0' :: (if style.pointZero then ['.', '0'] else [])
      else
        let d := shortest p
        let lead : Int := d.exponent + (natText d.digits).length - 1
        let inside := match style.positional? with
          | none => true
          | some (low, high) => low ≤ lead && lead ≤ high
        if inside then positional style.pointZero d else scientific style.plus d
    if p.negative then '-' :: body else body

/-- A double with a fixed number of decimal places; a tie goes to the even neighbour. -/
def fixed (places : Nat) (x : Float) : List Char :=
  match Parts.of? x with
  | none => Style.plain.text x
  | some p =>
    let n := roundDiv (p.mantissa * Nat.pow 2 p.exponent.toNat * Nat.pow 10 places)
      (Nat.pow 2 (-p.exponent).toNat)
    let ds := natText n
    let ds := List.replicate (places + 1 - ds.length) '0' ++ ds
    let whole := ds.take (ds.length - places)
    let body := if places = 0 then whole else whole ++ '.' :: ds.drop (ds.length - places)
    if p.negative then '-' :: body else body

end ViewWeave.Decimal
