import ViewWeave.Markup.Expr

/-!
# Template nodes

A template is a list of nodes: text, and tags with what stands between them. Each tag keeps the
marks at its two edges, which ask for the removal of white space.
-/

namespace ViewWeave

/-- The marks inside a tag's two edges. -/
structure Marks where
  left : Bool
  right : Bool
  deriving DecidableEq, Repr

structure Param where
  name : String
  fallback : Option Expr

mutual

inductive Node
  | text (s : String)
  | raw (opening : Marks) (s : String) (closing : Marks)
  | comment (marks : Marks)
  | super
  | extend (marks : Marks) (name : String)
  | importing (marks : Marks) (file space : String)
  | output (marks : Marks) (e : Expr)
  | set (marks : Marks) (name : String) (e : Expr) (outer : Bool)
  | inclusion (marks : Marks) (names : List String) (optional : Bool)
  | block (opening : Marks) (name : String) (body : List Node) (closing : Marks)
  | loop (opening : Marks) (key : Option String) (value : String) (container : Expr)
      (body empty : List Node) (closing : Marks)
  | cond (branches : List Branch) (otherwise : Option (Marks × List Node)) (closing : Marks)
  | filtered (opening : Marks) (filter : Call) (body : List Node) (closing : Marks)
  | define (opening : Marks) (name : String) (params : List Param) (body : List Node)
      (closing : Marks)
  | stop (marks : Marks)
  | next (marks : Marks)

inductive Branch
  | mk (marks : Marks) (condition : Expr) (body : List Node)

end

instance : Inhabited Node := ⟨.super⟩

namespace Branch

def marks : Branch → Marks
  | .mk m _ _ => m

def condition : Branch → Expr
  | .mk _ c _ => c

def body : Branch → List Node
  | .mk _ _ b => b

def mapBody (f : List Node → List Node) : Branch → Branch
  | .mk m c b => .mk m c (f b)

end Branch

structure Macro where
  params : List Param
  body : List Node

end ViewWeave
