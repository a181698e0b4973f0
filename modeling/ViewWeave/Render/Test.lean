import ViewWeave.Decimal.Remainder
import ViewWeave.Render.Fault
import ViewWeave.Text.Affix

/-!
# Tests

A test answers a question about a value that may be missing.
-/

namespace ViewWeave

def Test : Type := Option Value → List Value → Except TestFault Bool

namespace Test

def taking (most : Nat) (f : Test) : Test := fun v args =>
  if args.length ≤ most then f v args
  else .error (if most = 0 then .noArgsTaken else .tooManyArgs args.length most)

def onValue (most : Nat) (f : Value → List Value → Except TestFault Bool) : Test :=
  taking most fun v args =>
    match v with
    | some v => f v args
    | none => .error .undefined

def kind (f : Value → Bool) : Test := onValue 0 fun v _ => .ok (f v)

/-- A test whether a number is odd, or even if `even`. -/
def parity (even : Bool) : Test := onValue 0 fun v _ =>
  match v with
  | .num n => .ok ((Decimal.remainder n.toFloat 2.0 != 0.0) != even)
  | _ => .error (.notNumber "odd")

def divisibleBy : Test := onValue 1 fun v args =>
  match v, args with
  | .num n, .num m :: _ => .ok (Decimal.remainder n.toFloat m.toFloat == 0.0)
  | .num _, _ => .error .argNotNumber
  | _, _ => .error (.notNumber "divisibleby")

def ofTexts (f : List Char → List Char → Bool) : Test := onValue 1 fun v args =>
  match v, args with
  | .str s, .str t :: _ => .ok (f t.toList s.toList)
  | .str _, _ => .error .argNotText
  | _, _ => .error .notText

def containing : Test := onValue 1 fun v args =>
  match v, args with
  | .str s, .str t :: _ => .ok (Text.occursIn t.toList s.toList)
  | .arr items, w :: _ => .ok (items.any w.beq)
  | .arr _, [] => .ok false
  | .obj fields, .str k :: _ => .ok (fields.lookup k).isSome
  | .str _, _ | .obj _, _ => .error .argNotText
  | _, _ => .error .notSearchable

def all : List (String × Test) :=
  [("defined", taking 0 fun v _ => .ok v.isSome),
   ("undefined", taking 0 fun v _ => .ok v.isNone),
   ("string", kind fun | .str _ => true | _ => false),
   ("number", kind fun | .num _ => true | _ => false),
   ("object", kind fun | .obj _ => true | _ => false),
   ("iterable", kind fun | .arr _ => true | .obj _ => true | _ => false),
   ("odd", parity false),
   ("even", parity true),
   ("divisibleby", divisibleBy),
   ("starting_with", ofTexts fun p s => (Text.dropStart? p s).isSome),
   ("ending_with", ofTexts fun p s => (Text.dropEnd? p s).isSome),
   ("containing", containing)]

end Test

def test? (name : String) : Option Test := Test.all.lookup name

end ViewWeave
