import ViewWeave.Markup.Node

/-!
# Function calls of a template

All function calls in a template in the order of a walk from the outside in: a call before its
arguments, an operand before its filters, a head before its body. The arguments of a call have no
order of their own; here the last one comes first.
-/

namespace ViewWeave

mutual

def Expr.calls : Expr → List String
  | .mk o _ fs => o.calls ++ callsOfFilters fs

def Operand.calls : Operand → List String
  | .str _ => []
  | .int _ => []
  | .float _ => []
  | .bool _ => []
  | .path _ => []
  | .arith _ l r => l.calls ++ r.calls
  | .logic _ l r => l.calls ++ r.calls
  | .within _ l r => l.calls ++ r.calls
  | .test _ _ _ es => callsOfExprs es
  | .call (.mk n as) => n :: callsOfArgs as
  | .macroCall _ (.mk _ as) => callsOfArgs as
  | .array es => callsOfExprs es
  | .concat ps => callsOfParts ps

def Call.argCalls : Call → List String
  | .mk _ as => callsOfArgs as

def Arg.calls : Arg → List String
  | .mk _ e => e.calls

def callsOfExprs : List Expr → List String
  | [] => []
  | e :: es => e.calls ++ callsOfExprs es

def callsOfParts : List Operand → List String
  | [] => []
  | p :: ps => p.calls ++ callsOfParts ps

def callsOfFilters : List Call → List String
  | [] => []
  | c :: cs => c.argCalls ++ callsOfFilters cs

def callsOfArgs : List Arg → List String
  | [] => []
  | a :: as => callsOfArgs as ++ a.calls

end

def callsOfParams : List Param → List String
  | [] => []
  | p :: ps => (p.fallback.map Expr.calls).getD [] ++ callsOfParams ps

mutual

def Node.calls : Node → List String
  | .text _ => []
  | .raw _ _ _ => []
  | .comment _ => []
  | .super => []
  | .extend _ _ => []
  | .importing _ _ _ => []
  | .output _ e => e.calls
  | .set _ _ e _ => e.calls
  | .inclusion _ _ _ => []
  | .block _ _ body _ => callsOfNodes body
  | .loop _ _ _ e body empty _ => e.calls ++ (callsOfNodes body ++ callsOfNodes empty)
  | .cond branches (some (_, body)) _ => callsOfBranches branches ++ callsOfNodes body
  | .cond branches none _ => callsOfBranches branches
  | .filtered _ f body _ => f.argCalls ++ callsOfNodes body
  | .define _ _ params body _ => callsOfParams params ++ callsOfNodes body
  | .stop _ => []
  | .next _ => []

def callsOfNodes : List Node → List String
  | [] => []
  | n :: ns => n.calls ++ callsOfNodes ns

def callsOfBranches : List Branch → List String
  | [] => []
  | .mk _ c body :: bs => c.calls ++ (callsOfNodes body ++ callsOfBranches bs)

end

end ViewWeave
