import ViewWeave.Helper.Basic
import ViewWeave.Markup.Walk
import ViewWeave.Proofs.Markup.Occurrence
import Mathlib.Data.List.Basic

/-!
# What a walk comes to first

All walks through a template come to the same calls. If no call has two arguments with something
sought in them, they also come to the same thing first.
-/

namespace ViewWeave

/-! ## Walks compared with the calls of a template -/

/-- A relation between two lists of calls that follows the shape of a template, up to the order of
arguments that are `free` to take any. -/
structure WalkRelation where
  rel : List String → List String → Prop
  free : List Arg → Prop
  nil : rel [] []
  single : ∀ f, rel [f] [f]
  append : ∀ {u v x y}, rel u x → rel v y → rel (u ++ v) (x ++ y)
  trans : ∀ {u v w}, rel u v → rel v w → rel u w
  free_perm : ∀ {as bs}, as.Perm bs → free as → free bs
  free_tail : ∀ {a as}, free (a :: as) → free as
  reorder : ∀ {as bs}, as.Perm bs → free as → rel (callsOfArgs as) (callsOfArgs bs)

theorem callsOfArgs_append (as bs : List Arg) :
    callsOfArgs (as ++ bs) = callsOfArgs bs ++ callsOfArgs as := by
  rw [callsOfArgs_eq, callsOfArgs_eq, callsOfArgs_eq, List.reverse_append, List.flatMap_append]

section
variable (R : WalkRelation)

def Expr.Free (e : Expr) : Prop := ∀ {c k}, e.Has c k → R.free c.args

def Operand.Free (o : Operand) : Prop := ∀ {c k}, o.Has c k → R.free c.args

def Node.Free (n : Node) : Prop := ∀ {c k}, n.Has c k → R.free c.args

variable {R}

mutual

theorem Expr.Walk.related : ∀ {e : Expr} {w : List String}, e.Walk w → e.Free R → R.rel w e.calls
  | _, _, .mk walk filters, h =>
    R.append (Operand.Walk.related walk fun has => h (.operand has))
      (WalkFilters.related filters (fun _ hf => h (.filter hf))
        fun _ hf _ ha => fun has => h (.filterArg hf ha has))

theorem Operand.Walk.related : ∀ {o : Operand} {w : List String}, o.Walk w → o.Free R →
    R.rel w o.calls
  | _, _, .str _, _ | _, _, .int _, _ | _, _, .float _, _ | _, _, .bool _, _
  | _, _, .path _, _ => R.nil
  | _, _, .arith left right, h =>
    R.append (Expr.Walk.related left fun has => h (.arithLeft has))
      (Expr.Walk.related right fun has => h (.arithRight has))
  | _, _, .logic left right, h =>
    R.append (Expr.Walk.related left fun has => h (.logicLeft has))
      (Expr.Walk.related right fun has => h (.logicRight has))
  | _, _, .within left right, h =>
    R.append (Expr.Walk.related left fun has => h (.withinLeft has))
      (Expr.Walk.related right fun has => h (.withinRight has))
  | _, _, .test walk, h => WalkExprs.related walk fun _ he => fun has => h (.testArg he has)
  | _, _, .call walk, h =>
    -- the call itself comes first, whatever the order of its arguments
    R.append (R.single _)
      (WalkArgs.related walk (h .call) fun _ ha => fun has => h (.callArg ha has))
  | _, _, .macroCall walk, h =>
    WalkArgs.related walk (h .macroCall) fun _ ha => fun has => h (.macroArg ha has)
  | _, _, .array walk, h => WalkExprs.related walk fun _ he => fun has => h (.item he has)
  | _, _, .concat walk, h => WalkParts.related walk fun _ hp => fun has => h (.part hp has)

theorem WalkExprs.related : ∀ {es : List Expr} {w : List String}, WalkExprs es w →
    (∀ e ∈ es, e.Free R) → R.rel w (callsOfExprs es)
  | _, _, .nil, _ => R.nil
  | _, _, .cons walk rest, h =>
    R.append (Expr.Walk.related walk (h _ (List.mem_cons_self ..)))
      (WalkExprs.related rest fun e he => h e (List.mem_cons_of_mem _ he))

theorem WalkParts.related : ∀ {ps : List Operand} {w : List String}, WalkParts ps w →
    (∀ p ∈ ps, p.Free R) → R.rel w (callsOfParts ps)
  | _, _, .nil, _ => R.nil
  | _, _, .cons walk rest, h =>
    R.append (Operand.Walk.related walk (h _ (List.mem_cons_self ..)))
      (WalkParts.related rest fun p hp => h p (List.mem_cons_of_mem _ hp))

theorem WalkFilters.related : ∀ {fs : List Call} {w : List String}, WalkFilters fs w →
    (∀ f ∈ fs, R.free f.args) → (∀ f ∈ fs, ∀ a ∈ f.args, a.value.Free R) →
      R.rel w (callsOfFilters fs)
  | _, _, .nil, _, _ => R.nil
  | _, _, .cons walk rest, free, h =>
    R.append (WalkArgs.related walk (free _ (List.mem_cons_self ..)) (h _ (List.mem_cons_self ..)))
      (WalkFilters.related rest (fun f hf => free f (List.mem_cons_of_mem _ hf))
        fun f hf => h f (List.mem_cons_of_mem _ hf))

theorem WalkArgs.related : ∀ {as : List Arg} {w : List String}, WalkArgs as w → R.free as →
    (∀ a ∈ as, a.value.Free R) → R.rel w (callsOfArgs as)
  | _, _, .nil, _, _ => R.nil
  | .mk n e :: as, _, .cons walk rest, free, h => by
    have first := Expr.Walk.related walk (h _ (List.mem_cons_self ..))
    have last := WalkArgs.related rest (R.free_tail free) fun a ha =>
      h a (List.mem_cons_of_mem _ ha)
    -- the argument that comes first in the walk comes last among the calls
    have turned : (Arg.mk n e :: as).Perm (as ++ [.mk n e]) :=
      (List.perm_append_singleton (.mk n e) as).symm
    refine R.trans ?_ (R.reorder turned.symm (R.free_perm turned free))
    rw [callsOfArgs_append]
    exact R.append first last
  | _, _, .reorder perm walk, free, h =>
    have before := R.free_perm perm.symm free
    R.trans (WalkArgs.related walk before fun a ha => h a (perm.subset ha)) (R.reorder perm before)

end

theorem WalkParams.related {ps : List Param} {w : List String} (walk : WalkParams ps w)
    (h : ∀ p ∈ ps, ∀ e, p.fallback = some e → e.Free R) : R.rel w (callsOfParams ps) := by
  induction walk with
  | nil => exact R.nil
  | required _ ih => exact ih fun p hp => h p (List.mem_cons_of_mem _ hp)
  | optional walk _ ih =>
    exact R.append (walk.related (h _ (List.mem_cons_self ..) _ rfl))
      (ih fun p hp => h p (List.mem_cons_of_mem _ hp))

mutual

theorem Node.Walk.related : ∀ {n : Node} {w : List String}, n.Walk w → n.Free R → R.rel w n.calls
  | _, _, .text _, _ | _, _, .raw _ _ _, _ | _, _, .comment _, _ | _, _, .super, _
  | _, _, .extend _ _, _ | _, _, .importing _ _ _, _ | _, _, .inclusion _ _ _, _
  | _, _, .stop _, _ | _, _, .next _, _ => R.nil
  | _, _, .output walk, h => walk.related fun has => h (.output has)
  | _, _, .set walk, h => walk.related fun has => h (.set has)
  | _, _, .block walk, h => WalkNodes.related walk fun _ hn => fun has => h (.block hn has)
  | _, _, .loop walk body empty, h =>
    R.append (walk.related fun has => h (.container has))
      (R.append (WalkNodes.related body fun _ hn => fun has => h (.turn hn has))
        (WalkNodes.related empty fun _ hn => fun has => h (.noTurn hn has)))
  | _, _, .cond walk, h =>
    WalkBranches.related walk (fun _ hb => fun has => h (.condition hb has))
      fun _ hb _ hn => fun has => h (.branch hb hn has)
  | _, _, .condElse walk body, h =>
    R.append
      (WalkBranches.related walk (fun _ hb => fun has => h (.condition hb has))
        fun _ hb _ hn => fun has => h (.branch hb hn has))
      (WalkNodes.related body fun _ hn => fun has => h (.otherwise hn has))
  | _, _, .filtered walk body, h =>
    R.append (walk.related (h .filter) fun _ ha => fun has => h (.filterArg ha has))
      (WalkNodes.related body fun _ hn => fun has => h (.filtered hn has))
  | _, _, .define walk body, h =>
    R.append (walk.related fun _ hp _ he => fun has => h (.fallback hp he has))
      (WalkNodes.related body fun _ hn => fun has => h (.definition hn has))

theorem WalkNodes.related : ∀ {ns : List Node} {w : List String}, WalkNodes ns w →
    (∀ n ∈ ns, n.Free R) → R.rel w (callsOfNodes ns)
  | _, _, .nil, _ => R.nil
  | _, _, .cons walk rest, h =>
    R.append (Node.Walk.related walk (h _ (List.mem_cons_self ..)))
      (WalkNodes.related rest fun n hn => h n (List.mem_cons_of_mem _ hn))

theorem WalkBranches.related : ∀ {bs : List Branch} {w : List String}, WalkBranches bs w →
    (∀ b ∈ bs, b.condition.Free R) → (∀ b ∈ bs, ∀ n ∈ b.body, n.Free R) →
      R.rel w (callsOfBranches bs)
  | _, _, .nil, _, _ => R.nil
  | _, _, .cons walk body rest, conditions, bodies =>
    R.append (walk.related (conditions _ (List.mem_cons_self ..)))
      (R.append (WalkNodes.related body (bodies _ (List.mem_cons_self ..)))
        (WalkBranches.related rest (fun b hb => conditions b (List.mem_cons_of_mem _ hb))
          fun b hb => bodies b (List.mem_cons_of_mem _ hb)))

end

end

/-! ## The calls of a walk -/

theorem callsOfArgs_perm {as bs : List Arg} (h : as.Perm bs) :
    (callsOfArgs as).Perm (callsOfArgs bs) := by
  rw [callsOfArgs_eq, callsOfArgs_eq]
  exact (((List.reverse_perm as).trans h).trans (List.reverse_perm bs).symm).flatMap_right _

def WalkRelation.perm : WalkRelation where
  rel := List.Perm
  free _ := True
  nil := .nil
  single _ := .refl _
  append := List.Perm.append
  trans := List.Perm.trans
  free_perm _ _ := trivial
  free_tail _ := trivial
  reorder h _ := callsOfArgs_perm h

/-- Every walk through nodes comes to their calls, in some order. -/
theorem WalkNodes.perm {ns : List Node} {w : List String} (walk : WalkNodes ns w) :
    w.Perm (callsOfNodes ns) :=
  walk.related (R := .perm) fun _ _ _ _ _ => trivial

theorem WalkNodes.mem_iff {ns : List Node} {w : List String} (walk : WalkNodes ns w) {f : String} :
    f ∈ w ↔ ∃ n ∈ ns, n.Calls f :=
  walk.perm.mem_iff.trans mem_callsOfNodes_iff

/-! ## What a walk comes to first -/

section
variable (bound : String → Bool)

def Arg.CallsUnbound (a : Arg) : Prop := ∃ f, a.value.Calls f ∧ ¬bound f

/-- No two arguments of the call both call functions that are not bound. -/
def Call.Unmixed (c : Call) : Prop :=
  c.args.Pairwise fun a b => ¬(a.CallsUnbound bound ∧ b.CallsUnbound bound)

/-- No function call, macro call or filter in the node mixes two arguments that both call functions
that are not bound. -/
def Node.Unmixed (n : Node) : Prop := ∀ {c k}, n.Has c k → c.Unmixed bound

def firstIn (w : List String) : Option String := w.find? fun f => !bound f

variable {bound}

theorem firstIn_append (u v : List String) :
    firstIn bound (u ++ v) = (firstIn bound u).or (firstIn bound v) :=
  List.find?_append

theorem callsUnbound_iff {a : Arg} : a.CallsUnbound bound ↔ firstIn bound a.value.calls ≠ none := by
  unfold Arg.CallsUnbound firstIn
  simp [Expr.mem_calls_iff]

/-- The order of arguments of which only one calls a function that is not bound has no part in what
comes first. -/
theorem firstIn_perm {as bs : List Arg} (h : as.Perm bs)
    (unmixed : as.Pairwise fun a b => ¬(a.CallsUnbound bound ∧ b.CallsUnbound bound)) :
    firstIn bound (callsOfArgs as) = firstIn bound (callsOfArgs bs) := by
  induction h with
  | nil => rfl
  | cons a _ ih =>
    cases a
    rw [callsOfArgs, callsOfArgs, firstIn_append, firstIn_append,
      ih (List.pairwise_cons.mp unmixed).2]
  | swap a b as =>
    have apart : ¬(b.CallsUnbound bound ∧ a.CallsUnbound bound) :=
      (List.pairwise_cons.mp unmixed).1 a (List.mem_cons_self ..)
    -- one of the two has nothing to find, so their order does not count
    rw [callsUnbound_iff, callsUnbound_iff] at apart
    cases a
    cases b
    simp only [callsOfArgs, firstIn_append, Arg.calls, Arg.value] at apart ⊢
    rw [Option.or_assoc, Option.or_assoc]
    congr 1
    rcases not_and_or.mp apart with none | none
    · rw [not_not.mp none, Option.none_or, Option.or_none]
    · rw [not_not.mp none, Option.none_or, Option.or_none]
  | trans first _ ih ih' =>
    rw [ih unmixed, ih' ((first.pairwise_iff fun apart both => apart both.symm).mp unmixed)]

variable (bound) in
def WalkRelation.first : WalkRelation where
  rel u v := firstIn bound u = firstIn bound v
  free as := as.Pairwise fun a b => ¬(a.CallsUnbound bound ∧ b.CallsUnbound bound)
  nil := rfl
  single _ := rfl
  append hu hv := by rw [firstIn_append, firstIn_append, hu, hv]
  trans := Eq.trans
  free_perm perm := (perm.pairwise_iff fun apart both => apart both.symm).mp
  free_tail := List.Pairwise.of_cons
  reorder := firstIn_perm

/-- Every walk through unmixed nodes comes first to what all other walks come to first. -/
theorem WalkNodes.firstIn_eq {ns : List Node} {w w' : List String} (walk : WalkNodes ns w)
    (walk' : WalkNodes ns w') (unmixed : ∀ n ∈ ns, n.Unmixed bound) :
    firstIn bound w = firstIn bound w' :=
  (walk.related (R := .first bound) unmixed).trans (walk'.related (R := .first bound) unmixed).symm

end

/-! ## The first function that is not bound -/

theorem firstUnbound?_eq_none {order : WalkOrder} {bound : String → Bool} {name : String}
    {ns : List Node} :
    firstUnbound? order bound name ns = none ↔ ∀ f, (∃ n ∈ ns, n.Calls f) → bound f := by
  unfold firstUnbound?
  rw [List.find?_eq_none]
  simp [(order.walks name ns).mem_iff]

theorem mem_of_firstUnbound? {order : WalkOrder} {bound : String → Bool} {name f : String}
    {ns : List Node} (h : firstUnbound? order bound name ns = some f) :
    (∃ n ∈ ns, n.Calls f) ∧ ¬bound f :=
  ⟨(order.walks name ns).mem_iff.mp (List.mem_of_find?_eq_some h), by simpa using List.find?_some h⟩

/-- **Unbound functions.** None is found just if all functions that are called anywhere are bound.
One that is found is called and not bound, and in nodes without mixed arguments every walk passes
only bound functions before it comes to that one. -/
theorem firstUnbound?_first (order : WalkOrder) (helpers : Helpers) (name : String)
    (ns : List Node) :
    (firstUnbound? order helpers.isBound name ns = none ↔
        ∀ f, (∃ n ∈ ns, n.Calls f) → helpers.isBound f) ∧
      ∀ f, firstUnbound? order helpers.isBound name ns = some f →
        (∃ n ∈ ns, n.Calls f) ∧ ¬helpers.isBound f ∧
          ((∀ n ∈ ns, n.Unmixed helpers.isBound) → ∀ w, WalkNodes ns w →
            ∃ before after, w = before ++ f :: after ∧ ∀ g ∈ before, helpers.isBound g) := by
  refine ⟨firstUnbound?_eq_none, fun f found => ?_⟩
  obtain ⟨called, unbound⟩ := mem_of_firstUnbound? found
  refine ⟨called, unbound, fun unmixed w walk => ?_⟩
  have first : firstIn helpers.isBound w = some f :=
    (walk.firstIn_eq (order.walks name ns) unmixed).trans found
  obtain ⟨-, before, after, split, passed⟩ := List.find?_eq_some_iff_append.mp first
  exact ⟨before, after, split, by simpa using passed⟩

def nestedCall : List Node :=
  [.output ⟨false, false⟩
    (.plain (.call (.mk "outer" [.mk "x" (.plain (.call (.mk "inner" [])))])))]

def outerOnly : Helpers := Helpers.empty.register "outer" (.const .null false)

theorem nestedCall_unmixed (bound : String → Bool) : ∀ n ∈ nestedCall, n.Unmixed bound := by
  intro n hn c k has
  obtain rfl := List.mem_singleton.mp hn
  have inner {c k} (has : (Expr.plain (.call (.mk "inner" []))).Has c k) : c.Unmixed bound := by
    cases has with
    | operand has =>
      cases has with
      | call => exact List.Pairwise.nil
      | callArg ha => exact absurd ha List.not_mem_nil
    | filter hf | filterArg hf => exact absurd hf List.not_mem_nil
  cases has with
  | output has =>
    cases has with
    | operand has =>
      cases has with
      | call => exact List.pairwise_singleton _ _
      | callArg ha has =>
        obtain rfl := List.mem_singleton.mp ha
        exact inner has
    | filter hf | filterArg hf => exact absurd hf List.not_mem_nil

theorem firstUnbound?_first_nestedCall :
    firstUnbound? .lastFirst outerOnly.isBound "a:b" nestedCall = some "inner" ∧
      ∀ w, WalkNodes nestedCall w → ∃ before after, w = before ++ "inner" :: after ∧
        ∀ g ∈ before, outerOnly.isBound g := by
  have found : firstUnbound? .lastFirst outerOnly.isBound "a:b" nestedCall = some "inner" := by
    decide +kernel
  obtain ⟨-, first⟩ := firstUnbound?_first .lastFirst outerOnly "a:b" nestedCall
  exact ⟨found, (first _ found).2.2 (nestedCall_unmixed _)⟩

end ViewWeave
