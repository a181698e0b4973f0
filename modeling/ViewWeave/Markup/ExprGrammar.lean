import ViewWeave.Markup.Expr
import ViewWeave.Markup.Literal

/-!
# The grammar of expressions

Rules refer to one another through three rules that stand for an expression in brackets. A level of
brackets is read with the rules one level below, so reading ends.
-/

namespace ViewWeave.Markup

open Rule

/-- The rules for what stands in brackets. -/
structure Inner where
  logic : Rule Expr
  basic : Rule Operand
  array : Rule Expr

/-! ## Operators -/

/-- Joins operands by the operators of the tighter kind, from the left. -/
def joinTight {α ο : Type} (mk : ο → α → α → α) (tight : ο → Bool) :
    α → List (ο × α) → α × List (ο × α)
  | x, [] => (x, [])
  | x, (o, y) :: rest =>
    if tight o then joinTight mk tight (mk o x y) rest
    else
      let (y, rest) := joinTight mk tight y rest
      (x, (o, y) :: rest)

/-- Joins operands by operators of two strengths, each from the left. -/
def join {α ο : Type} (mk : ο → α → α → α) (tight : ο → Bool) (x : α) (rest : List (ο × α)) : α :=
  let (x, rest) := joinTight mk tight x rest
  rest.foldl (fun x (o, y) => mk o x y) x

def ArithOp.isTight : ArithOp → Bool
  | .mul | .div | .rem => true
  | .add | .sub => false

def LogicOp.isTight : LogicOp → Bool
  | .and => true
  | _ => false

def arithOp : Rule ArithOp :=
  (do lit "+"; return .add) <|> (do lit "-"; return .sub) <|> (do lit "*"; return .mul) <|>
  (do lit "/"; return .div) <|> (do lit "%"; return .rem)

def compareOp : Rule LogicOp :=
  (do lit "<="; return .le) <|> (do lit ">="; return .ge) <|> (do lit ">"; return .gt) <|>
  (do lit "<"; return .lt) <|> (do lit "=="; return .eq) <|> (do lit "!="; return .ne)

/-- Reads a word with one character of white space after it. -/
def wordOp (s : String) : Rule Unit := do lit s; one isSpace

def logicOp : Rule LogicOp :=
  (do wordOp "or"; return .or) <|> (do wordOp "and"; return .and)

def operation {α ο : Type} (op : Rule ο) (operand : Rule α) : Rule (ο × α) := do
  let o ← op
  skip
  let x ← operand
  return (o, x)

def chain {α ο : Type} (mk : ο → α → α → α) (tight : ο → Bool) (op : Rule ο) (operand : Rule α) :
    Rule α := do
  let x ← operand
  skip
  let rest ← manySpaced (operation op operand)
  return join mk tight x rest

/-! ## Calls -/

namespace Inner

variable (r : Inner)

def value : Rule Expr := r.logic <|> r.array

def arg : Rule Arg := do
  let n ← name
  skip
  lit "="
  skip
  let e ← r.value
  return .mk n e

/-- Named arguments, of which the last for each name counts. -/
def args : Rule (List Arg) := do
  let a ← r.arg
  skip
  let as ← manySpaced (do lit ","; skip; r.arg)
  skip
  let _ ← opt (lit ",")
  return (a :: as).foldl (fun done a => a.put done) []

def call : Rule Call := do
  let n ← name
  skip
  lit "("
  skip
  let as ← opt r.args
  skip
  lit ")"
  return .mk n (as.getD [])

/-- A filter after its bar; the brackets may be left out. -/
def filter : Rule Call := do
  lit "|"
  skip
  r.call <|> (do return .mk (← name) [])

def macroCall : Rule Operand := do
  let space ← name
  skip
  lit "::"
  skip
  let n ← name
  skip
  lit "("
  skip
  let as ← opt r.args
  skip
  lit ")"
  return .macroCall space (.mk n (as.getD []))

/-! ## Tests -/

def testArgs : Rule (List Expr) := do
  lit "("
  skip
  let e ← r.value
  skip
  let es ← manySpaced (do lit ","; skip; r.value)
  skip
  lit ")"
  return e :: es

def testCall : Rule (String × List Expr) := do
  let n ← name
  skip
  let es ← opt r.testArgs
  return (n, es.getD [])

/-- A test of a path that is meant to fail. -/
def testNot : Rule Operand := do
  let p ← path
  skip
  lit "is"
  skip
  lit "not"
  skip
  let (n, es) ← r.testCall
  return .test p true n es

def test : Rule Operand := do
  let p ← path
  skip
  lit "is"
  skip
  let (n, es) ← r.testCall
  return .test p false n es

/-! ## Operands -/

def operand : Rule Operand :=
  -- tests and calls begin like a path, and numbers with a fraction like whole ones
  (do return .bool (← truth)) <|> r.testNot <|> r.test <|> r.macroCall <|>
  (do return .call (← r.call)) <|> (do return .path (← path)) <|> (do return .float (← double)) <|>
  (do return .int (← whole))

def factor : Rule Operand :=
  (do lit "("; skip; let x ← r.basic; skip; lit ")"; return x) <|> r.operand

def sum : Rule Operand :=
  chain (fun o x y => .arith o (.plain x) (.plain y)) ArithOp.isTight arithOp r.factor

def filters : Rule (List Call) := manySpaced r.filter

def filteredSum : Rule Expr := do
  let x ← r.sum
  skip
  let fs ← r.filters
  return .mk x false fs

def part : Rule Operand :=
  (do return .call (← r.call)) <|> (do return .float (← double)) <|> (do return .int (← whole)) <|>
  (do return .str (← quotedText)) <|> (do return .path (← path))

end Inner

/-- The parts of a joined text with neighbouring quoted texts made one, where `s` was quoted just
before; an empty one is left out. -/
def mergeParts (s : String) : List Operand → List Operand
  | [] => if s.isEmpty then [] else [.str s]
  | .str t :: rest => mergeParts (s ++ t) rest
  | p :: rest => if s.isEmpty then p :: mergeParts "" rest else .str s :: p :: mergeParts "" rest

def joinParts (parts : List Operand) : Operand :=
  match mergeParts "" parts with
  | [] => .str ""
  | [.str s] => .str s
  | ps => .concat ps

namespace Inner

variable (r : Inner)

def concat : Rule Operand := do
  let p ← r.part
  skip
  let q ← do lit "~"; skip; r.part
  let rest ← many (do skip; lit "~"; skip; r.part)
  return joinParts (p :: q :: rest)

def filteredText : Rule Expr := do
  let x ← r.concat <|> (do return .str (← quotedText))
  skip
  let fs ← r.filters
  return .mk x false fs

/-! ## Conditions -/

def filteredSums : Rule Expr :=
  chain (fun o x y => .plain (.arith o x y)) ArithOp.isTight arithOp r.filteredSum

def side : Rule Expr := r.filteredText <|> r.filteredSums

def comparison : Rule Expr := do
  let x ← r.side
  skip
  let rest ← opt (operation compareOp r.side)
  return match rest with
    | some (o, y) => .plain (.logic o x y)
    | none => x

def container : Rule Expr :=
  r.filteredText <|> r.array <|> (do return .plain (.path (← path)))

def within : Rule Expr := do
  let x ← r.filteredText <|> r.filteredSum
  skip
  let n ← opt (wordOp "not")
  skip
  lit "in"
  skip
  let y ← r.container
  return .plain (.within n.isSome x y)

def logicOperand : Rule Expr :=
  (do
    let n ← opt (wordOp "not")
    skip
    let e ← r.within <|> r.comparison
    return e.withNegated n.isSome) <|>
  (do lit "("; skip; let e ← r.logic; skip; lit ")"; return e.withNegated false)

def wholeLogic : Rule Expr :=
  chain (fun o x y => .plain (.logic o x y)) LogicOp.isTight logicOp r.logicOperand

def wholeArray : Rule Expr := do
  lit "["
  skip
  let es ← manySpaced (do let e ← r.logicOperand; skip; lit ","; return e)
  skip
  -- no comma is needed behind the last item
  let last ← opt r.logicOperand
  skip
  lit "]"
  skip
  let fs ← r.filters
  return .mk (.array (es ++ last.toList)) false fs

/-- The rules with one more level of brackets. -/
def next : Inner := ⟨r.wholeLogic, r.sum, r.wholeArray⟩

def level : Nat → Inner
  | 0 => ⟨refuse, refuse, refuse⟩
  | n + 1 => (level n).next

end Inner

end ViewWeave.Markup
