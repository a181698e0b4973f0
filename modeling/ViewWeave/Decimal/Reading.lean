import ViewWeave.Decimal.Binary

/-!
# Reading numbers

A decimal with an optional fraction and exponent is read to the nearest double; digits of any base
are read to a whole number.
-/

namespace ViewWeave.Decimal

def digit? (base : Nat) (c : Char) : Option Nat :=
  let n? :=
    if '0' ≤ c ∧ c ≤ '9' then some (c.toNat - 48)
    else if 'a' ≤ c ∧ c ≤ 'z' then some (c.toNat - 87)
    else if 'A' ≤ c ∧ c ≤ 'Z' then some (c.toNat - 55)
    else none
  n?.filter (· < base)

def readNat? (base : Nat) (s : List Char) : Option Nat :=
  if s.isEmpty then none else s.foldlM (fun n c => (digit? base c).map (n * base + ·)) 0

def readInt? (base : Nat) : List Char → Option Int
  | '-' :: s => (readNat? base s).map fun n => -(n : Int)
  | '+' :: s => (readNat? base s).map fun n => (n : Int)
  | s => (readNat? base s).map fun n => (n : Int)

/-- The exponent part at the end of a decimal; nothing is exponent zero. -/
def readExponent? : List Char → Option Int
  | [] => some 0
  | c :: s => if c == 'e' || c == 'E' then readInt? 10 s else none

def readUnsigned? (s : List Char) : Option Float :=
  let whole := s.takeWhile Char.isDigit
  let rest := s.dropWhile Char.isDigit
  let (fraction, rest) := match rest with
    | '.' :: cs => (cs.takeWhile Char.isDigit, cs.dropWhile Char.isDigit)
    | cs => ([], cs)
  if whole.isEmpty && fraction.isEmpty then none
  else do
    let n ← readNat? 10 (whole ++ fraction)
    let e ← readExponent? rest
    return ofDecimal n (e - fraction.length)

/-- The double nearest to a decimal after an optional sign; the words for infinity and for what is
no number are read too. -/
def readFloat? (s : List Char) : Option Float :=
  let (negative, s) := match s with
    | '-' :: cs => (true, cs)
    | '+' :: cs => (false, cs)
    | cs => (false, cs)
  let word := s.map Char.toLower
  let x? :=
    if word = "inf".toList || word = "infinity".toList then some (Float.ofBits 0x7FF0000000000000)
    else if word = "nan".toList then some (Float.ofBits 0x7FF8000000000000)
    else readUnsigned? s
  x?.map fun x => if negative then -x else x

end ViewWeave.Decimal
