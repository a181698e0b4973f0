import ViewWeave.Render.Arith
import ViewWeave.Render.Filter
import ViewWeave.Render.Html
import ViewWeave.Render.Spaces
import ViewWeave.Render.State
import ViewWeave.Render.Test

/-!
# Evaluation of expressions

The steps for one level of an expression, given the steps for what is inside it.
-/

namespace ViewWeave

/-- The steps for what lies one level further in. -/
structure Evaluator where
  body : List Node → Eval Unit
  /-- The value of an expression, escaped as its output would be. -/
  value : Expr → Eval Value
  truth : Expr → Eval Bool
  /-- The number that an operand is, if arithmetic has a result. -/
  number : Operand → Eval (Option Number)

namespace Evaluator

variable (job : Job) (ev : Evaluator)

/-! ## Arguments -/

def plain (e : Expr) : Eval Value := Eval.verbatim (ev.value e)

def argValues (wrap : Fault → Fault) : List Arg → Eval Fields
  | [] => return []
  | a :: as => do
    let v ← Eval.wrapping wrap (ev.plain a.value)
    let vs ← argValues wrap as
    return Fields.insert a.name v vs

def plainAll (wrap : Fault → Fault) : List Expr → Eval (List Value)
  | [] => return []
  | e :: es => do
    let v ← Eval.wrapping wrap (ev.plain e)
    let vs ← plainAll wrap es
    return v :: vs

/-- The result of a function, and whether it is put out as it is. -/
def call (c : Call) : Eval (Value × Bool) := do
  -- a call is noted also if no function has the name
  let moment ← Eval.note c.name
  let some h := job.function? moment c.name | throw (.noFunction c.name)
  let args ← ev.argValues (.inFunction c.name) c.args
  match h.call args with
  | .ok v => return (v, h.safe)
  | .error m => throw (.inFunction c.name (.helper m))

def filter (v : Value) (c : Call) : Eval Value := do
  let some f := job.filter? c.name | throw (.noFilter c.name)
  let args ← ev.argValues (.inFilter c.name) c.args
  match f v args with
  | .ok v => return v
  | .error fault => throw (.inFilter c.name (.filter c.name fault))

def test (path : String) (negated : Bool) (name : String) (args : List Expr) : Eval Bool := do
  let some t := job.test? name | throw (.noTest name)
  let args ← ev.plainAll (.inTest name) args
  let found := (job.lookup (← get) path).toOption
  match t found args with
  | .ok b => return b != negated
  | .error fault => throw (.inTest name (.test name fault))

def within (negated : Bool) (lhs rhs : Expr) : Eval Bool := do
  let l ← ev.plain lhs
  let r ← ev.plain rhs
  match r, l with
  | .arr items, l => return items.any l.beq != negated
  | .str s, .str t => return Text.occursIn t.toList s.toList != negated
  | .str _, l => throw (.notInText l)
  | .obj fields, .str k => return (fields.lookup k).isSome != negated
  | .obj _, l => throw (.notInObject l)
  | _, _ => throw .noContainer

/-! ## Macros -/

/-- The templates by whose macros a macro's name is looked up: that of the innermost block, or the
lowest one, or the one that is being walked through. -/
def caller (st : State) : String :=
  match st.blocks with
  | mark :: _ => mark.template
  | [] => if job.root.name != job.template.name then job.root.name else (job.active st).name

def bindParams (definition : String) (c : Call) : List Param → Eval Fields
  | [] => return []
  | p :: ps => do
    let v ← match (c.arg? p.name).or p.fallback with
      | some e => ev.plain e
      | none => throw (.noArgument definition p.name)
    let vs ← bindParams definition c ps
    return Fields.insert p.name v vs

def callMacro (space : String) (c : Call) : Eval Unit := do
  let template := caller job (← get)
  let (owner, definition) ← Eval.ofExcept (job.engine.library.findMacro template space c.name)
  let vars ← ev.bindParams c.name c definition.params
  Eval.push ⟨.definition space c.name, owner, vars, none⟩
  ev.body definition.body
  Eval.pop

/-! ## Numbers -/

def exprNumber (e : Expr) : Eval (Option Number) := do
  if e.filters.isEmpty then ev.number e.operand
  else
    match (← ev.value e).number? with
    | some n => return some n
    | none => throw .sumOfOther

def operandNumber : Operand → Eval (Option Number)
  | .path p => do
    match (← job.look p).number? with
    | some n => return some n
    | none => throw (.sumOfPath p)
  | .int i => return some (.int i)
  | .float x => return some (.float x)
  | .arith op lhs rhs => do
    let l ← ev.exprNumber lhs
    let r ← ev.exprNumber rhs
    match l, r with
    | some a, some b => Eval.ofExcept (Number.arith op (.remZero lhs rhs) a b)
    | _, _ => return none
  | .call c => do
    match (← ev.call job c).1.number? with
    | some n => return some n
    | none => throw (.sumOfCall c.name)
  | .str s => throw (.sumOfText s)
  | .bool b => throw (.sumOfTruth b)
  | .concat ps => throw (.sumOfJoined ps)
  | .test _ _ n _ => throw (.sumOfTest n)
  | _ => throw .unsupported

/-! ## Truth -/

/-- Whether two values are equal; two numbers are compared by size. Nothing is known of a number
and something else. -/
def sameValue? (l r : Value) : Option Bool :=
  match l.number?, r.number? with
  | some a, some b => some (a.toFloat == b.toFloat)
  | none, none => some (l.beq r)
  | _, _ => none

/-- The truth of an operator; none means false whatever stands before the expression. -/
def logicTruth (op : LogicOp) (lhs rhs : Expr) : Eval (Option Bool) := do
  match op with
  | .or => if ← ev.truth lhs then return some true else return some (← ev.truth rhs)
  | .and => if ← ev.truth lhs then return some (← ev.truth rhs) else return some false
  | .eq => return sameValue? (← ev.value lhs) (← ev.value rhs)
  | .ne => return (sameValue? (← ev.value lhs) (← ev.value rhs)).map (!·)
  | op =>
    let l ← ev.exprNumber lhs
    let r ← ev.exprNumber rhs
    match l, r with
    | some a, some b => return some (Number.compares op a b)
    | _, _ => throw .notComparable

def operandTruth (e : Expr) : Eval (Option Bool) :=
  match e.operand with
  | .logic op lhs rhs => ev.logicTruth op lhs rhs
  | .path _ => do
    -- the value has its `not` already, and a path that fails is false with or without one
    match ← Eval.attempt (ev.value e) with
    | .ok v => return some (v.isTruthy != e.negated)
    | .error _ => return some e.negated
  | .arith _ _ _ | .int _ | .float _ => do
    match ← ev.number e.operand with
    | some n => return some n.isTruthy
    | none => return some false
  | .within n lhs rhs => do return some (← ev.within n lhs rhs)
  | .test p n name args => do return some (← ev.test job p n name args)
  | .bool b => return some b
  | .str s => return some !s.isEmpty
  | .call c => do
    match (← ev.call job c).1 with
    | .bool b => return some b
    | _ => throw (.truthOfCall c.name)
  | .concat _ => do
    match ← ev.value e with
    | .str s => return some !s.isEmpty
    | _ => throw .unsupported
  | .macroCall space c => do return some !(← Eval.capture (ev.callMacro job space c)).isEmpty
  | .array items => return some !items.isEmpty

def exprTruth (e : Expr) : Eval Bool := do
  match ← ev.operandTruth job e with
  | some b => return b != e.negated
  | none => return false

/-! ## Values -/

/-- The text of one part of a joined text, and whether the whole is then escaped. -/
def partText (escape : Bool) : Operand → Eval (List Char × Bool)
  | .str s => return (s.toList, escape)
  | .int i => return (Decimal.intText i, escape)
  | .float x => return (Decimal.Style.plain.text x, escape)
  | .path p => do
    match ← job.look p with
    | .str s => return (s.toList, escape)
    | .num n => return (n.dataText, escape)
    | _ => throw (.joinPath p)
  | .call c => do
    -- of several calls in a joined text the last one decides on escaping
    match ← ev.call job c with
    | (.str s, safe) => return (s.toList, !safe)
    | (.num n, safe) => return (n.dataText, !safe)
    | _ => throw (.joinCall c.name)
  | _ => throw .unsupported

def joinedText (escape : Bool) : List Operand → Eval (List Char × Bool)
  | [] => return ([], escape)
  | p :: ps => do
    let (s, escape) ← ev.partText job escape p
    let (rest, escape) ← joinedText escape ps
    return (s ++ rest, escape)

def itemValues : List Expr → Eval (List Value)
  | [] => return []
  | e :: es => do
    let v ← ev.value e
    let vs ← itemValues es
    return v :: vs

def fallbackValue (filters : List Call) : Eval Value :=
  match filters.head?.bind (·.arg? "value") with
  | some e => ev.value e
  | none => throw .noDefault

/-- The value of a path that filters follow; there is none where a missing variable is asked for
with `not` before it. -/
def pathValue (e : Expr) (path : String) : Eval (Option Value) := do
  let default := e.filters.head?.any (·.name == "default")
  match job.lookup (← get) path, default with
  | .ok .null, true => return some (← ev.fallbackValue e.filters)
  | .ok v, _ => return some v
  | .error _, true => return some (← ev.fallbackValue e.filters)
  | .error f, false => if e.negated then return none else throw f

def operandValue (e : Expr) : Eval (Option (Value × Bool)) :=
  match e.operand with
  | .array items => do return some (.arr (← ev.itemValues items), false)
  | .within n lhs rhs => do return some (.bool (← ev.within n lhs rhs), false)
  | .str s => return some (.str s, true)
  | .concat parts => do
    let (s, escape) ← ev.joinedText job false parts
    return some (.str (String.ofList s), escape)
  | .int i => return some (.ofInt i, false)
  | .float x => return some (.ofFloat x, false)
  | .bool b => return some (.bool b, false)
  | .path p => do return (← ev.pathValue job e p).map fun v => (v, p != Job.everything)
  | .call c => do
    let (v, safe) ← ev.call job c
    return some (v, !safe)
  | .macroCall space c => do
    return some (.str (← Eval.capture (ev.callMacro job space c)), false)
  | .test p n name args => do return some (.bool (← ev.test job p n name args), false)
  | .logic _ _ _ => do return some (.bool (← ev.truth e), false)
  | .arith _ _ _ => do
    match ← Eval.wrapping (fun f => .arithmetic f.message) (ev.number e.operand) with
    | some n => return some (.num n, false)
    | none => return some (.str "NaN", false)

/-- The value after filters, and whether it is escaped; two names are no filters of their own. -/
def filtered (v : Value) (escape : Bool) : List Call → Eval (Value × Bool)
  | [] => return (v, escape)
  | c :: cs => do
    if c.name = "safe" || c.name = "default" then filtered v escape cs
    -- what a filter gives is escaped, also if what it was given is not
    else filtered (← ev.filter job v c) true cs

def isMarkedSafe (e : Expr) : Bool := e.filters.getLast?.any (·.name == "safe")

def exprValue (e : Expr) : Eval Value := do
  match ← ev.operandValue job e with
  | none => return .bool true
  | some (v, escape) =>
    let (v, escape) ← ev.filtered job v escape e.filters
    if e.negated then return .bool !v.isTruthy
    match v with
    | .str s =>
      if (← get).escaping && escape && !isMarkedSafe e then return .str (Html.escape s)
      else return v
    | v => return v

end Evaluator

end ViewWeave
