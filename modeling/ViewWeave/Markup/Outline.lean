import ViewWeave.Markup.Expr
import ViewWeave.Data.Value
import ViewWeave.Text.Quoted

/-!
# Outlines

Expressions and values as some messages show them, constructor by constructor.
-/

namespace ViewWeave

def commaList (xs : List String) : String := ", ".intercalate xs

def bracketList (xs : List String) : String := "[" ++ commaList xs ++ "]"

def braceList (xs : List String) : String := "\x7b" ++ commaList xs ++ "\x7d"

def recordText (name : String) (fields : List (String × String)) : String :=
  name ++ " \x7b " ++ commaList (fields.map fun (k, v) => k ++ ": " ++ v) ++ " \x7d"

def boolWord (b : Bool) : String := String.ofList (Value.boolText b)

def intWord (i : Int) : String := String.ofList (Decimal.intText i)

def ArithOp.outline : ArithOp → String
  | .add => "Add"
  | .sub => "Sub"
  | .mul => "Mul"
  | .div => "Div"
  | .rem => "Modulo"

def LogicOp.outline : LogicOp → String
  | .gt => "Gt"
  | .ge => "Gte"
  | .lt => "Lt"
  | .le => "Lte"
  | .eq => "Eq"
  | .ne => "NotEq"
  | .and => "And"
  | .or => "Or"

mutual

def Expr.outline : Expr → String
  | .mk o n fs =>
    recordText "Expr" [("val", o.outline), ("negated", boolWord n),
      ("filters", bracketList (outlineCalls fs))]

def Operand.outline : Operand → String
  | .str s => "String(" ++ Text.quoted s ++ ")"
  | .int i => "Int(" ++ intWord i ++ ")"
  | .float x => "Float(" ++ String.ofList (Decimal.Style.outline.text x) ++ ")"
  | .bool b => "Bool(" ++ boolWord b ++ ")"
  | .path p => "Ident(" ++ Text.quoted p ++ ")"
  | .arith op l r =>
    "Math(" ++ recordText "MathExpr"
      [("lhs", l.outline), ("rhs", r.outline), ("operator", op.outline)] ++ ")"
  | .logic op l r =>
    "Logic(" ++ recordText "LogicExpr"
      [("lhs", l.outline), ("rhs", r.outline), ("operator", op.outline)] ++ ")"
  | .within n l r =>
    "In(" ++ recordText "In" [("lhs", l.outline), ("rhs", r.outline), ("negated", boolWord n)] ++
      ")"
  | .test p n name es =>
    "Test(" ++ recordText "Test" [("ident", Text.quoted p), ("negated", boolWord n),
      ("name", Text.quoted name), ("args", bracketList (outlineExprs es))] ++ ")"
  | .call c => "FunctionCall(" ++ c.outline ++ ")"
  | .macroCall space (.mk n as) =>
    "MacroCall(" ++ recordText "MacroCall" [("namespace", Text.quoted space),
      ("name", Text.quoted n), ("args", braceList (outlineArgs as))] ++ ")"
  | .array es => "Array(" ++ bracketList (outlineExprs es) ++ ")"
  | .concat ps =>
    "StringConcat(" ++ recordText "StringConcat" [("values", bracketList (outlineParts ps))] ++ ")"

def Call.outline : Call → String
  | .mk n as =>
    recordText "FunctionCall" [("name", Text.quoted n), ("args", braceList (outlineArgs as))]

def Arg.outline : Arg → String
  | .mk n e => Text.quoted n ++ ": " ++ e.outline

def outlineExprs : List Expr → List String
  | [] => []
  | e :: es => e.outline :: outlineExprs es

def outlineParts : List Operand → List String
  | [] => []
  | p :: ps => p.outline :: outlineParts ps

def outlineCalls : List Call → List String
  | [] => []
  | c :: cs => c.outline :: outlineCalls cs

def outlineArgs : List Arg → List String
  | [] => []
  | a :: as => a.outline :: outlineArgs as

end

namespace Value

mutual

def outline : Value → String
  | .null => "Null"
  | .bool b => "Bool(" ++ boolWord b ++ ")"
  | .num n => "Number(" ++ String.ofList n.dataText ++ ")"
  | .str s => "String(" ++ Text.quoted s ++ ")"
  | .arr vs => "Array " ++ bracketList (outlineItems vs)
  | .obj fs => "Object " ++ braceList (outlineFields fs)

def outlineItems : List Value → List String
  | [] => []
  | v :: vs => v.outline :: outlineItems vs

def outlineFields : List (String × Value) → List String
  | [] => []
  | (k, v) :: fs => (Text.quoted k ++ ": " ++ v.outline) :: outlineFields fs

end

end Value

end ViewWeave
