import ViewWeave.Render.Fault

/-!
# Filters

A filter makes a value from a value and named arguments. Here is how filters ask for an input or an
argument of one kind.
-/

namespace ViewWeave

def Filter : Type := Value → Fields → Except FilterFault Value

namespace Filter

/-! ## Inputs -/

def textInput : Value → Except FilterFault String
  | .str s => .ok s
  | v => .error (.badInput v "String")

def arrayInput : Value → Except FilterFault (List Value)
  | .arr items => .ok items
  | v => .error (.badInput v "Vec<Value>")

def doubleInput : Value → Except FilterFault Float
  | .num n => .ok n.toFloat
  | v => .error (.badInput v "f64")

/-! ## Arguments -/

/-- The argument called `name` read by `f`, or `fallback` if there is none. -/
def argOr {α : Type} (args : Fields) (name : String) (fallback : α)
    (f : String → Value → Except FilterFault α) : Except FilterFault α :=
  match args.get? name with
  | some v => f name v
  | none => .ok fallback

def argElse {α : Type} (args : Fields) (name : String) (missing : FilterFault)
    (f : String → Value → Except FilterFault α) : Except FilterFault α :=
  match args.get? name with
  | some v => f name v
  | none => .error missing

def text (name : String) : Value → Except FilterFault String
  | .str s => .ok s
  | v => .error (.badArg name v "a String")

def truth (name : String) : Value → Except FilterFault Bool
  | .bool b => .ok b
  | v => .error (.badArg name v "a bool")

def double (name : String) : Value → Except FilterFault Float
  | .num n => .ok n.toFloat
  | v => .error (.badArg name v "a f64")

def wholeBetween (low high : Int) (kind name : String) (v : Value) : Except FilterFault Int :=
  match v with
  | .num (.int i) => if low ≤ i ∧ i ≤ high then .ok i else .error (.badArg name v kind)
  | v => .error (.badArg name v kind)

def count (name : String) (v : Value) : Except FilterFault Nat :=
  (wholeBetween 0 Number.maxUnsigned "a usize" name v).map Int.toNat

def signed (name : String) (v : Value) : Except FilterFault Int :=
  wholeBetween Number.minSigned Number.maxSigned "a i64" name v

end Filter

end ViewWeave
