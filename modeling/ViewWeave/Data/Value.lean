import ViewWeave.Data.Sorted
import ViewWeave.Decimal.Style

/-!
# Template data

The values that templates compute with. An object is a list of fields in strictly ascending byte
order of their names, so the order in which a view author wrote them is never seen.
-/

namespace ViewWeave

/-- A number: a whole number of at most 64 bits, or a double. -/
inductive Number
  | int (i : Int)
  | float (x : Float)
  deriving Repr

inductive Value
  | null
  | bool (b : Bool)
  | num (n : Number)
  | str (s : String)
  | arr (items : List Value)
  | obj (fields : List (String × Value))
  deriving Repr, Inhabited

abbrev Fields := List (String × Value)

/-! ## Numbers -/

namespace Number

def minSigned : Int := -9223372036854775808
def maxSigned : Int := 9223372036854775807

def maxUnsigned : Int := 18446744073709551615

def signed? : Number → Option Int
  | .int i => if minSigned ≤ i ∧ i ≤ maxSigned then some i else none
  | .float _ => none

def unsigned? : Number → Option Int
  | .int i => if 0 ≤ i ∧ i ≤ maxUnsigned then some i else none
  | .float _ => none

def toFloat : Number → Float
  | .int i => Decimal.ofInt i
  | .float x => x

/-- Equality of the written kind: a whole number is never equal to a double. -/
def beq : Number → Number → Bool
  | .int i, .int j => i == j
  | .float x, .float y => x == y
  | _, _ => false

def display : Number → List Char
  | .int i => Decimal.intText i
  | .float x => Decimal.Style.plain.text x

def dataText : Number → List Char
  | .int i => Decimal.intText i
  | .float x => Decimal.Style.data.text x

def isTruthy : Number → Bool
  | .int i => i != 0
  | .float x => x != 0.0

end Number

/-! ## Fields -/

def Fields.insert (k : String) (v : Value) (fs : Fields) : Fields := Sorted.insert k v fs

def Fields.ofList (xs : List (String × Value)) : Fields := Sorted.ofList xs

def Fields.get? (fs : Fields) (k : String) : Option Value :=
  List.lookup k fs

/-! ## Values -/

namespace Value

mutual

def beq : Value → Value → Bool
  | .null, .null => true
  | .bool a, .bool b => a == b
  | .num a, .num b => a.beq b
  | .str a, .str b => a == b
  | .arr a, .arr b => beqItems a b
  | .obj a, .obj b => beqFields a b
  | _, _ => false

def beqItems : List Value → List Value → Bool
  | [], [] => true
  | a :: as, b :: bs => beq a b && beqItems as bs
  | _, _ => false

def beqFields : List (String × Value) → List (String × Value) → Bool
  | [], [] => true
  | (k, a) :: as, (l, b) :: bs => k == l && beq a b && beqFields as bs
  | _, _ => false

end

def boolText (b : Bool) : List Char := if b then "true".toList else "false".toList

mutual

/-- The value as it is printed: nothing for null, the items of an array between brackets. -/
def display : Value → List Char
  | .null => []
  | .bool b => boolText b
  | .num n => n.display
  | .str s => s.toList
  | .arr items => '[' :: (displayItems items ++ [']'])
  | .obj _ => "[object]".toList

def displayItems : List Value → List Char
  | [] => []
  | v :: rest =>
    match rest with
    | [] => display v
    | _ :: _ => display v ++ ',' :: ' ' :: displayItems rest

end

def displayText (v : Value) : String := String.ofList v.display

def isTruthy : Value → Bool
  | .null => false
  | .bool b => b
  | .num n => n.isTruthy
  | .str s => !s.isEmpty
  | .arr items => !items.isEmpty
  | .obj fields => !fields.isEmpty

def number? : Value → Option Number
  | .num n => some n
  | _ => none

def ofInt (i : Int) : Value := .num (.int i)

/-- A double as a value; what is not finite is null. -/
def ofFloat (x : Float) : Value := if x.isFinite then .num (.float x) else .null

end Value

end ViewWeave
