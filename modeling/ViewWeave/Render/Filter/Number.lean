import ViewWeave.Decimal.Reading
import ViewWeave.Render.Filter.Basic
import ViewWeave.Text.Affix
import ViewWeave.Text.Blank

/-!
# Filters on numbers, and between numbers and text
-/

namespace ViewWeave.Filter

/-! ## Numbers -/

/-- The whole number that a double is cut to, within the signed ones. -/
def cut (x : Float) : Int := x.toInt64.toInt

def abs : Filter := fun v _ =>
  match v with
  | .num (.int i) => .ok (.ofInt i.natAbs)
  | .num (.float x) => .ok (.ofFloat x.abs)
  | _ => .error .notANumber

/-- `r` times a power of a double, which is squared again and again. -/
def timesPower (r x : Float) (n : Nat) : Float :=
  if n = 0 then r else timesPower (if n % 2 = 1 then r * x else r) (x * x) (n / 2)
termination_by n

def tenTo (n : Int) : Float :=
  if n ≥ 0 then timesPower 1.0 10.0 n.toNat else 1.0 / timesPower 1.0 10.0 n.natAbs

def round : Filter := fun v args => do
  let x ← doubleInput v
  let method ← argOr args "method" "common" text
  let places ← argOr args "precision" 0 (wholeBetween (-2147483648) 2147483647 "a i32")
  let scale := tenTo places
  if method = "common" then return .ofFloat ((scale * x).round / scale)
  else if method = "ceil" then return .ofFloat ((scale * x).ceil / scale)
  else if method = "floor" then return .ofFloat ((scale * x).floor / scale)
  else .error (.badMethod method)

/-- The largest distance from one at which a double is still taken for one. -/
def nearOne : Float := Float.ofBits 0x3CB0000000000000

def pluralize : Filter := fun v args => do
  let x ← doubleInput v
  let plural ← argOr args "plural" "s" text
  let singular ← argOr args "singular" "" text
  return .str (if (x.abs - 1.0).abs > nearOne then plural else singular)

/-! ## Reading and printing -/

/-- `s` without the marks `p` at its start, of which at most `n` are taken. -/
def dropMarks (p : List Char) : Nat → List Char → List Char
  | 0, s => s
  | n + 1, s =>
    match Text.dropStart? p s with
    | some rest => dropMarks p n rest
    | none => s

def dropBaseMark (base : Nat) (s : List Char) : List Char :=
  if base = 2 then dropMarks ['0', 'b'] s.length s
  else if base = 8 then dropMarks ['0', 'o'] s.length s
  else if base = 16 then dropMarks ['0', 'x'] s.length s
  else s

def readWhole? (base : Nat) (s : List Char) : Option Int :=
  (Decimal.readInt? base s).filter fun i => Number.minSigned ≤ i ∧ i ≤ Number.maxSigned

def int : Filter := fun v args => do
  let fallback ← argOr args "default" 0 signed
  let base ← argOr args "base" 10 (wholeBetween 0 4294967295 "a u32")
  match v with
  | .num n => return .ofInt (cut n.toFloat)
  | .str s =>
    let s := dropBaseMark base.toNat (Text.trim s.toList)
    match readWhole? base.toNat s with
    | some i => return .ofInt i
    | none =>
      if s.contains '.' then return .ofInt (((Decimal.readFloat? s).map cut).getD fallback)
      else return .ofInt fallback
  | _ => .error .unexpectedType

def float : Filter := fun v args => do
  let fallback ← argOr args "default" 0.0 double
  match v with
  | .num n => return .ofFloat n.toFloat
  | .str s => return .ofFloat ((Decimal.readFloat? (Text.trim s.toList)).getD fallback)
  | _ => .error .unexpectedType

def asText : Filter := fun v _ => .ok (.str v.displayText)

def encode : Filter := fun v args =>
  match args.get? "pretty" with
  | some (.bool true) => .ok (.str v.indentedText)
  | _ => .ok (.str v.compactText)

def numbers : List (String × Filter) :=
  [("abs", abs), ("round", round), ("pluralize", pluralize), ("int", int), ("float", float),
   ("as_str", asText), ("json_encode", encode)]

end ViewWeave.Filter
