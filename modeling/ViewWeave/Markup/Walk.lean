import ViewWeave.Markup.Calls

/-!
# Walks through a template

A walk goes through a template in its order and from the outside in: a call before its arguments, an
operand before its filters, a head before its body. Only the order of the arguments of one call is
free: they are kept in a table, and a table gives them in an order of its own.
-/

namespace ViewWeave

mutual

/-- The functions that are called in an expression, in the order of a walk through it. -/
inductive Expr.Walk : Expr → List String → Prop
  | mk {o n fs u v} : Operand.Walk o u → WalkFilters fs v → Expr.Walk (.mk o n fs) (u ++ v)

inductive Operand.Walk : Operand → List String → Prop
  | str (s) : Operand.Walk (.str s) []
  | int (i) : Operand.Walk (.int i) []
  | float (x) : Operand.Walk (.float x) []
  | bool (b) : Operand.Walk (.bool b) []
  | path (p) : Operand.Walk (.path p) []
  | arith {op l r u v} : Expr.Walk l u → Expr.Walk r v → Operand.Walk (.arith op l r) (u ++ v)
  | logic {op l r u v} : Expr.Walk l u → Expr.Walk r v → Operand.Walk (.logic op l r) (u ++ v)
  | within {n l r u v} : Expr.Walk l u → Expr.Walk r v → Operand.Walk (.within n l r) (u ++ v)
  | test {p n name es w} : WalkExprs es w → Operand.Walk (.test p n name es) w
  | call {n as w} : WalkArgs as w → Operand.Walk (.call (.mk n as)) (n :: w)
  | macroCall {s n as w} : WalkArgs as w → Operand.Walk (.macroCall s (.mk n as)) w
  | array {es w} : WalkExprs es w → Operand.Walk (.array es) w
  | concat {ps w} : WalkParts ps w → Operand.Walk (.concat ps) w

inductive WalkExprs : List Expr → List String → Prop
  | nil : WalkExprs [] []
  | cons {e es u v} : Expr.Walk e u → WalkExprs es v → WalkExprs (e :: es) (u ++ v)

inductive WalkParts : List Operand → List String → Prop
  | nil : WalkParts [] []
  | cons {p ps u v} : Operand.Walk p u → WalkParts ps v → WalkParts (p :: ps) (u ++ v)

inductive WalkFilters : List Call → List String → Prop
  | nil : WalkFilters [] []
  | cons {n as fs u v} : WalkArgs as u → WalkFilters fs v → WalkFilters (.mk n as :: fs) (u ++ v)

/-- The arguments of a call may be taken in any order. -/
inductive WalkArgs : List Arg → List String → Prop
  | nil : WalkArgs [] []
  | cons {n e as u v} : Expr.Walk e u → WalkArgs as v → WalkArgs (.mk n e :: as) (u ++ v)
  | reorder {as bs w} : as.Perm bs → WalkArgs as w → WalkArgs bs w

end

inductive WalkParams : List Param → List String → Prop
  | nil : WalkParams [] []
  | required {n ps w} : WalkParams ps w → WalkParams (⟨n, none⟩ :: ps) w
  | optional {n e ps u v} : Expr.Walk e u → WalkParams ps v →
    WalkParams (⟨n, some e⟩ :: ps) (u ++ v)

mutual

inductive Node.Walk : Node → List String → Prop
  | text (s) : Node.Walk (.text s) []
  | raw (o s c) : Node.Walk (.raw o s c) []
  | comment (m) : Node.Walk (.comment m) []
  | super : Node.Walk .super []
  | extend (m n) : Node.Walk (.extend m n) []
  | importing (m f s) : Node.Walk (.importing m f s) []
  | inclusion (m ns o) : Node.Walk (.inclusion m ns o) []
  | stop (m) : Node.Walk (.stop m) []
  | next (m) : Node.Walk (.next m) []
  | output {m e w} : Expr.Walk e w → Node.Walk (.output m e) w
  | set {m x e g w} : Expr.Walk e w → Node.Walk (.set m x e g) w
  | block {o x body c w} : WalkNodes body w → Node.Walk (.block o x body c) w
  | loop {o x y e body empty c u v w} : Expr.Walk e u → WalkNodes body v → WalkNodes empty w →
      Node.Walk (.loop o x y e body empty c) (u ++ (v ++ w))
  | cond {bs c w} : WalkBranches bs w → Node.Walk (.cond bs none c) w
  | condElse {bs m body c u v} : WalkBranches bs u → WalkNodes body v →
      Node.Walk (.cond bs (some (m, body)) c) (u ++ v)
  | filtered {o n as body c u v} : WalkArgs as u → WalkNodes body v →
      Node.Walk (.filtered o (.mk n as) body c) (u ++ v)
  | define {o x ps body c u v} : WalkParams ps u → WalkNodes body v →
    Node.Walk (.define o x ps body c) (u ++ v)

inductive WalkNodes : List Node → List String → Prop
  | nil : WalkNodes [] []
  | cons {n ns u v} : Node.Walk n u → WalkNodes ns v → WalkNodes (n :: ns) (u ++ v)

inductive WalkBranches : List Branch → List String → Prop
  | nil : WalkBranches [] []
  | cons {m e body bs u v w} : Expr.Walk e u → WalkNodes body v → WalkBranches bs w →
      WalkBranches (.mk m e body :: bs) (u ++ (v ++ w))

end

/-! ## The calls of a template are a walk -/

/-- Two walks, one behind the other, are a walk through the arguments of both. -/
theorem WalkArgs.append {bs : List Arg} {v : List String} (h : WalkArgs bs v) :
    ∀ {as : List Arg} {u : List String}, WalkArgs as u → WalkArgs (as ++ bs) (u ++ v)
  | _, _, .nil => h
  | _, _, .cons walk rest => by
    rw [List.append_assoc]
    exact .cons walk (append h rest)
  | _, _, .reorder perm walk => .reorder (perm.append_right bs) (append h walk)

mutual

theorem Expr.walk_calls : ∀ e : Expr, e.Walk e.calls
  | .mk o _ fs => .mk (Operand.walk_calls o) (walkFilters_calls fs)

theorem Operand.walk_calls : ∀ o : Operand, o.Walk o.calls
  | .str s => .str s
  | .int i => .int i
  | .float x => .float x
  | .bool b => .bool b
  | .path p => .path p
  | .arith _ l r => .arith (Expr.walk_calls l) (Expr.walk_calls r)
  | .logic _ l r => .logic (Expr.walk_calls l) (Expr.walk_calls r)
  | .within _ l r => .within (Expr.walk_calls l) (Expr.walk_calls r)
  | .test _ _ _ es => .test (walkExprs_calls es)
  | .call (.mk _ as) => .call (walkArgs_calls as)
  | .macroCall _ (.mk _ as) => .macroCall (walkArgs_calls as)
  | .array es => .array (walkExprs_calls es)
  | .concat ps => .concat (walkParts_calls ps)

theorem walkExprs_calls (es : List Expr) : WalkExprs es (callsOfExprs es) := by
  cases es with
  | nil => exact .nil
  | cons e es => exact .cons (Expr.walk_calls e) (walkExprs_calls es)

theorem walkParts_calls (ps : List Operand) : WalkParts ps (callsOfParts ps) := by
  cases ps with
  | nil => exact .nil
  | cons p ps => exact .cons (Operand.walk_calls p) (walkParts_calls ps)

theorem walkFilters_calls : ∀ fs : List Call, WalkFilters fs (callsOfFilters fs)
  | [] => .nil
  | .mk _ as :: fs => .cons (walkArgs_calls as) (walkFilters_calls fs)

theorem walkArgs_calls : ∀ as : List Arg, WalkArgs as (callsOfArgs as)
  | [] => .nil
  | .mk n e :: as => by
    have last : WalkArgs [.mk n e] e.calls := by
      simpa using WalkArgs.cons (Expr.walk_calls e) .nil
    exact .reorder (List.perm_append_singleton (.mk n e) as) (.append last (walkArgs_calls as))

end

theorem walkParams_calls : ∀ ps : List Param, WalkParams ps (callsOfParams ps)
  | [] => .nil
  | ⟨_, none⟩ :: ps => .required (walkParams_calls ps)
  | ⟨_, some e⟩ :: ps => .optional (Expr.walk_calls e) (walkParams_calls ps)

mutual

theorem Node.walk_calls : ∀ n : Node, n.Walk n.calls
  | .text s => .text s
  | .raw o s c => .raw o s c
  | .comment m => .comment m
  | .super => .super
  | .extend m n => .extend m n
  | .importing m f s => .importing m f s
  | .inclusion m ns o => .inclusion m ns o
  | .stop m => .stop m
  | .next m => .next m
  | .output _ e => .output (Expr.walk_calls e)
  | .set _ _ e _ => .set (Expr.walk_calls e)
  | .block _ _ body _ => .block (walkNodes_calls body)
  | .loop _ _ _ e body empty _ =>
    .loop (Expr.walk_calls e) (walkNodes_calls body) (walkNodes_calls empty)
  | .cond bs none _ => .cond (walkBranches_calls bs)
  | .cond bs (some (_, body)) _ => .condElse (walkBranches_calls bs) (walkNodes_calls body)
  | .filtered _ (.mk _ as) body _ => .filtered (walkArgs_calls as) (walkNodes_calls body)
  | .define _ _ ps body _ => .define (walkParams_calls ps) (walkNodes_calls body)

theorem walkNodes_calls : ∀ ns : List Node, WalkNodes ns (callsOfNodes ns)
  | [] => .nil
  | n :: ns => .cons (Node.walk_calls n) (walkNodes_calls ns)

theorem walkBranches_calls : ∀ bs : List Branch, WalkBranches bs (callsOfBranches bs)
  | [] => .nil
  | .mk _ e body :: bs => .cons (Expr.walk_calls e) (walkNodes_calls body) (walkBranches_calls bs)

end

/-! ## Orders -/

/-- How a composition goes through its templates: one walk for each template, by its name. -/
structure WalkOrder where
  walk : String → List Node → List String
  walks : ∀ name ns, WalkNodes ns (walk name ns)

/-- The walks that take the arguments of a call from the last one to the first. -/
def WalkOrder.lastFirst : WalkOrder := ⟨fun _ => callsOfNodes, fun _ => walkNodes_calls⟩

/-- The first function that a walk through a template comes to and that is not bound. -/
def firstUnbound? (order : WalkOrder) (bound : String → Bool) (name : String) (nodes : List Node) :
    Option String :=
  (order.walk name nodes).find? fun f => !bound f

end ViewWeave
