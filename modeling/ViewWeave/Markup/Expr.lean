/-!
# Expressions

The expressions of template tags. Filters and a leading `not` belong to the expression they stand
at; a path keeps the text it was written with, brackets included.
-/

namespace ViewWeave

inductive ArithOp
  | add | sub | mul | div | rem
  deriving DecidableEq, Repr

inductive LogicOp
  | gt | ge | lt | le | eq | ne | and | or
  deriving DecidableEq, Repr

mutual

/-- An operand with its filters, and whether `not` stands before it. -/
inductive Expr
  | mk (operand : Operand) (negated : Bool) (filters : List Call)

inductive Operand
  | str (s : String)
  | int (i : Int)
  | float (x : Float)
  | bool (b : Bool)
  | path (p : String)
  | arith (op : ArithOp) (lhs rhs : Expr)
  | logic (op : LogicOp) (lhs rhs : Expr)
  | within (negated : Bool) (lhs rhs : Expr)
  | test (path : String) (negated : Bool) (name : String) (args : List Expr)
  | call (c : Call)
  | macroCall (space : String) (c : Call)
  | array (items : List Expr)
  | concat (parts : List Operand)

/-- A name with named arguments: a function call, a filter, or a macro call without its space. -/
inductive Call
  | mk (name : String) (args : List Arg)

inductive Arg
  | mk (name : String) (value : Expr)

end

instance : Inhabited Expr := ⟨.mk (.bool false) false []⟩
instance : Inhabited Operand := ⟨.bool false⟩
instance : Inhabited Call := ⟨.mk "" []⟩

namespace Expr

def operand : Expr → Operand
  | .mk o _ _ => o

def negated : Expr → Bool
  | .mk _ n _ => n

def filters : Expr → List Call
  | .mk _ _ fs => fs

def plain (o : Operand) : Expr := .mk o false []

/-- The expression with `not` before it or not, whatever stood before it. -/
def withNegated (n : Bool) : Expr → Expr
  | .mk o _ fs => .mk o n fs

end Expr

namespace Call

def name : Call → String
  | .mk n _ => n

def args : Call → List Arg
  | .mk _ as => as

end Call

namespace Arg

def name : Arg → String
  | .mk n _ => n

def value : Arg → Expr
  | .mk _ e => e

end Arg

def Call.arg? (c : Call) (name : String) : Option Expr :=
  (c.args.find? fun a => a.name == name).map Arg.value

/-- The arguments with one more; it takes the place of one that has its name. -/
def Arg.put (a : Arg) : List Arg → List Arg
  | [] => [a]
  | b :: bs => if b.name = a.name then a :: bs else b :: a.put bs

end ViewWeave
