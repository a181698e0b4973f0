import ViewWeave.Proofs.Render.Steps

/-!
# Expressions in two renderings

If the evaluators of what lies one level further in run in parallel, so do the evaluators of
expressions.
-/

namespace ViewWeave

namespace Twin

variable {j₁ j₂ : Job} (T : Twin j₁ j₂)

structure Evaluators (ev₁ ev₂ : Evaluator) : Prop where
  body : ∀ {ns}, T.permit.Nodes ns → T.Parallel (· = ·) (ev₁.body ns) (ev₂.body ns)
  value : ∀ {e : Expr}, T.permit.Calls e.calls → T.Parallel (· = ·) (ev₁.value e) (ev₂.value e)
  truth : ∀ {e : Expr}, T.permit.Calls e.calls → T.Parallel (· = ·) (ev₁.truth e) (ev₂.truth e)
  number : ∀ {o : Operand}, T.permit.Calls o.calls →
    T.Parallel (· = ·) (ev₁.number o) (ev₂.number o)

end Twin

/-! ## Calls of the parts of an expression -/

theorem Expr.calls_eq (e : Expr) : e.calls = e.operand.calls ++ callsOfFilters e.filters := by
  cases e; rfl

theorem Call.argCalls_eq (c : Call) : c.argCalls = callsOfArgs c.args := by
  cases c; rfl

theorem Operand.calls_call (c : Call) : (Operand.call c).calls = c.name :: callsOfArgs c.args := by
  cases c; rfl

theorem Operand.calls_macroCall (space : String) (c : Call) :
    (Operand.macroCall space c).calls = callsOfArgs c.args := by
  cases c; rfl

namespace Permit

variable {P : Permit}

theorem calls_expr {e : Expr} (h : P.Calls e.calls) :
    P.Calls e.operand.calls ∧ P.Calls (callsOfFilters e.filters) := by
  rwa [e.calls_eq, calls_append] at h

theorem calls_cons_arg {a : Arg} {as : List Arg} (h : P.Calls (callsOfArgs (a :: as))) :
    P.Calls a.value.calls ∧ P.Calls (callsOfArgs as) := by
  cases a
  rw [callsOfArgs, calls_append] at h
  exact h.symm

theorem calls_value {as : List Arg} (h : P.Calls (callsOfArgs as)) {a : Arg} (ha : a ∈ as) :
    P.Calls a.value.calls := by
  induction as with
  | nil => cases ha
  | cons b as ih =>
    obtain ⟨hb, has⟩ := calls_cons_arg h
    rcases List.mem_cons.mp ha with rfl | ha
    · exact hb
    · exact ih has ha

theorem calls_arg? {c : Call} (h : P.Calls (callsOfArgs c.args)) {name : String} {e : Expr}
    (he : c.arg? name = some e) : P.Calls e.calls := by
  obtain ⟨a, ha, rfl⟩ := Option.map_eq_some_iff.mp he
  exact calls_value h (List.mem_of_find?_eq_some ha)

theorem calls_cons_filter {c : Call} {cs : List Call} (h : P.Calls (callsOfFilters (c :: cs))) :
    P.Calls (callsOfArgs c.args) ∧ P.Calls (callsOfFilters cs) := by
  rwa [callsOfFilters, calls_append, c.argCalls_eq] at h

theorem calls_cons_expr {e : Expr} {es : List Expr} (h : P.Calls (callsOfExprs (e :: es))) :
    P.Calls e.calls ∧ P.Calls (callsOfExprs es) := by
  rwa [callsOfExprs, calls_append] at h

theorem calls_cons_part {o : Operand} {os : List Operand} (h : P.Calls (callsOfParts (o :: os))) :
    P.Calls o.calls ∧ P.Calls (callsOfParts os) := by
  rwa [callsOfParts, calls_append] at h

theorem calls_cons_param {p : Param} {ps : List Param} (h : P.Calls (callsOfParams (p :: ps))) :
    (∀ e, p.fallback = some e → P.Calls e.calls) ∧ P.Calls (callsOfParams ps) := by
  rw [callsOfParams, calls_append] at h
  refine ⟨fun e he => ?_, h.2⟩
  simpa [he] using h.1

end Permit

namespace Twin.Evaluators

variable {j₁ j₂ : Job} {T : Twin j₁ j₂} {ev₁ ev₂ : Evaluator} (h : T.Evaluators ev₁ ev₂)
include h

/-! ## Arguments -/

theorem plain {e : Expr} (he : T.permit.Calls e.calls) :
    T.Parallel (· = ·) (ev₁.plain e) (ev₂.plain e) :=
  .verbatim (h.value he)

theorem argValues (wrap : Fault → Fault) : ∀ {as : List Arg}, T.permit.Calls (callsOfArgs as) →
    T.Parallel (· = ·) (ev₁.argValues wrap as) (ev₂.argValues wrap as)
  | [], _ => .pure rfl
  | _ :: _, has => by
    obtain ⟨ha, has⟩ := Permit.calls_cons_arg has
    refine .andThen (.wrapping _ _ (h.plain ha)) fun v => ?_
    refine .andThen (argValues wrap has) fun vs => ?_
    exact .pure rfl

theorem plainAll (wrap : Fault → Fault) : ∀ {es : List Expr}, T.permit.Calls (callsOfExprs es) →
    T.Parallel (· = ·) (ev₁.plainAll wrap es) (ev₂.plainAll wrap es)
  | [], _ => .pure rfl
  | _ :: _, hes => by
    obtain ⟨he, hes⟩ := Permit.calls_cons_expr hes
    refine .andThen (.wrapping _ _ (h.plain he)) fun v => ?_
    refine .andThen (plainAll wrap hes) fun vs => ?_
    exact .pure rfl

theorem call {c : Call} (hc : T.permit.Calls (Operand.call c).calls) :
    T.Parallel (· = ·) (ev₁.call j₁ c) (ev₂.call j₂ c) := by
  rw [Operand.calls_call, Permit.calls_cons] at hc
  refine .andThen (.note hc.1) fun moment => ?_
  rw [T.function?_eq hc.1]
  split
  · refine .andThen (h.argValues _ hc.2) fun args => ?_
    split
    · exact .pure rfl
    · exact .throw _ _
  · exact .throw _ _

theorem filter (v : Value) {c : Call} (hc : T.permit.Calls (callsOfArgs c.args)) :
    T.Parallel (· = ·) (ev₁.filter j₁ v c) (ev₂.filter j₂ v c) := by
  unfold Evaluator.filter
  rw [T.filter?_eq]
  split
  · refine .andThen (h.argValues _ hc) fun args => ?_
    split
    · exact .pure rfl
    · exact .throw _ _
  · exact .throw _ _

theorem test (path : String) (negated : Bool) (name : String) {args : List Expr}
    (ha : T.permit.Calls (callsOfExprs args)) :
    T.Parallel (· = ·) (ev₁.test j₁ path negated name args)
      (ev₂.test j₂ path negated name args) := by
  unfold Evaluator.test
  rw [T.test?_eq]
  split
  · refine .andThen (h.plainAll _ ha) fun vs => ?_
    refine .get fun s₁ s₂ hs => ?_
    rw [(hs.lookup path).toOption]
    dsimp only
    split
    · exact .pure rfl
    · exact .throw _ _
  · exact .throw _ _

theorem within (negated : Bool) {l r : Expr} (hl : T.permit.Calls l.calls)
    (hr : T.permit.Calls r.calls) :
    T.Parallel (· = ·) (ev₁.within negated l r) (ev₂.within negated l r) := by
  refine .andThen (h.plain hl) fun v => ?_
  refine .andThen (h.plain hr) fun w => ?_
  split
  all_goals first | exact .pure rfl | exact .throw _ _

/-! ## Macros -/

omit h in
theorem caller {s₁ s₂ : State} (hs : T.Matches s₁ s₂) :
    SameMacros T.permit T.like j₁.engine.library j₂.engine.library (Evaluator.caller j₁ s₁)
      (Evaluator.caller j₂ s₂) := by
  have hb := hs.blocks
  unfold Evaluator.caller
  generalize s₁.blocks = bs, s₂.blocks = cs at hb
  cases hb with
  | cons hm _ => exact hm.macros
  | nil =>
    by_cases hn : j₁.root.name = j₁.template.name
    · simpa [hn, T.named.mp hn] using T.macros hs.active
    · simpa [hn, mt T.named.mpr hn] using T.macros T.root

theorem bindParams (definition : String) {c : Call} (hc : T.permit.Calls (callsOfArgs c.args)) :
    ∀ {ps : List Param}, T.permit.Calls (callsOfParams ps) →
      T.Parallel (· = ·) (ev₁.bindParams definition c ps) (ev₂.bindParams definition c ps)
  | [], _ => .pure rfl
  | p :: ps, hps => by
    obtain ⟨hp, hps⟩ := Permit.calls_cons_param hps
    have hrest (v : Value) := Parallel.andThen (bindParams definition hc hps) fun vs =>
      Parallel.pure (T := T) (rfl : Fields.insert p.name v vs = _)
    rw [Evaluator.bindParams, Evaluator.bindParams]
    cases he : (c.arg? p.name).or p.fallback with
    | none => exact .andThen (.throw _ _) hrest
    | some e =>
      refine .andThen (h.plain ?_) hrest
      rcases Option.or_eq_some_iff.mp he with ha | ⟨_, hf⟩
      · exact Permit.calls_arg? hc ha
      · exact hp e hf

theorem callMacro (space : String) {c : Call} (hc : T.permit.Calls (callsOfArgs c.args)) :
    T.Parallel (· = ·) (ev₁.callMacro j₁ space c) (ev₂.callMacro j₂ space c) := by
  refine .get fun s₁ s₂ hs => ?_
  refine .bind (.ofExcept (caller hs space c.name)) fun ⟨t, m⟩ ⟨u, _⟩ ⟨htu, hm, ok⟩ => ?_
  dsimp only at htu hm ok ⊢
  subst hm
  refine .andThen (h.bindParams c.name hc ok.params) fun vars => ?_
  refine .andThen (.push ⟨rfl, htu, rfl, rfl⟩) fun _ => ?_
  exact .andThen (h.body ok.body) fun _ => .pop

/-! ## Numbers -/

theorem exprNumber {e : Expr} (he : T.permit.Calls e.calls) :
    T.Parallel (· = ·) (ev₁.exprNumber e) (ev₂.exprNumber e) := by
  unfold Evaluator.exprNumber
  split
  · exact h.number (Permit.calls_expr he).1
  · refine .andThen (h.value he) fun v => ?_
    split
    · exact .pure rfl
    · exact .throw _ _

theorem operandNumber : ∀ {o : Operand}, T.permit.Calls o.calls →
    T.Parallel (· = ·) (ev₁.operandNumber j₁ o) (ev₂.operandNumber j₂ o)
  | .path p, _ => by
    refine .andThen (.look p) fun v => ?_
    split
    · exact .pure rfl
    · exact .throw _ _
  | .int _, _ | .float _, _ => .pure rfl
  | .arith op l r, ho => by
    rw [Operand.calls, Permit.calls_append] at ho
    refine .andThen (h.exprNumber ho.1) fun a => ?_
    refine .andThen (h.exprNumber ho.2) fun b => ?_
    split
    · exact .ofExcept (Alike.refl _)
    · exact .pure rfl
  | .call c, ho => by
    refine .andThen (h.call ho) fun v => ?_
    split
    · exact .pure rfl
    · exact .throw _ _
  | .str _, _ | .bool _, _ | .concat _, _ | .test _ _ _ _, _ | .logic _ _ _, _ | .within _ _ _, _
  | .macroCall _ _, _ | .array _, _ => .throw _ _

/-! ## Truth -/

theorem logicTruth (op : LogicOp) {l r : Expr} (hl : T.permit.Calls l.calls)
    (hr : T.permit.Calls r.calls) :
    T.Parallel (· = ·) (ev₁.logicTruth op l r) (ev₂.logicTruth op l r) := by
  unfold Evaluator.logicTruth
  split
  case h_1 | h_2 =>
    refine .andThen (h.truth hl) fun b => ?_
    split
    all_goals first | exact .pure rfl | exact .andThen (h.truth hr) fun _ => .pure rfl
  case h_3 | h_4 => exact .andThen (h.value hl) fun _ => .andThen (h.value hr) fun _ => .pure rfl
  case h_5 =>
    refine .andThen (h.exprNumber hl) fun a => .andThen (h.exprNumber hr) fun b => ?_
    split
    · exact .pure rfl
    · exact .throw _ _

theorem operandTruth {e : Expr} (he : T.permit.Calls e.calls) :
    T.Parallel (· = ·) (ev₁.operandTruth j₁ e) (ev₂.operandTruth j₂ e) := by
  have ho := (Permit.calls_expr he).1
  unfold Evaluator.operandTruth
  generalize hoe : e.operand = o at ho
  cases o with
  | logic op l r =>
    rw [Operand.calls, Permit.calls_append] at ho
    exact h.logicTruth op ho.1 ho.2
  | path p =>
    refine .bind (.attempt (h.value he)) fun r₁ r₂ hr => ?_
    cases r₁ with
    | ok v =>
      cases r₂ with
      | ok w => exact .pure (by rw [show v = w from hr])
      | error _ => exact hr.elim
    | error _ =>
      cases r₂ with
      | ok _ => exact hr.elim
      | error _ => exact .pure rfl
  | arith | int | float =>
    refine .andThen (h.number ho) fun n => ?_
    split <;> exact .pure rfl
  | within n l r =>
    rw [Operand.calls, Permit.calls_append] at ho
    exact .andThen (h.within n ho.1 ho.2) fun _ => .pure rfl
  | test p n name args => exact .andThen (h.test p n name ho) fun _ => .pure rfl
  | bool | str | array => exact .pure rfl
  | call c =>
    refine .andThen (h.call ho) fun v => ?_
    split
    · exact .pure rfl
    · exact .throw _ _
  | concat parts =>
    refine .andThen (h.value he) fun v => ?_
    split
    · exact .pure rfl
    · exact .throw _ _
  | macroCall space c =>
    rw [Operand.calls_macroCall] at ho
    exact .andThen (.capture (h.callMacro space ho)) fun _ => .pure rfl

theorem exprTruth {e : Expr} (he : T.permit.Calls e.calls) :
    T.Parallel (· = ·) (ev₁.exprTruth j₁ e) (ev₂.exprTruth j₂ e) := by
  refine .andThen (h.operandTruth he) fun b => ?_
  split <;> exact .pure rfl

/-! ## Values -/

theorem partText (escape : Bool) : ∀ {o : Operand}, T.permit.Calls o.calls →
    T.Parallel (· = ·) (ev₁.partText j₁ escape o) (ev₂.partText j₂ escape o)
  | .str _, _ | .int _, _ | .float _, _ => .pure rfl
  | .path p, _ => by
    refine .andThen (.look p) fun v => ?_
    split
    · exact .pure rfl
    · exact .pure rfl
    · exact .throw _ _
  | .call c, ho => by
    refine .andThen (h.call ho) fun v => ?_
    split
    · exact .pure rfl
    · exact .pure rfl
    · exact .throw _ _
  | .bool _, _ | .concat _, _ | .test _ _ _ _, _ | .logic _ _ _, _ | .within _ _ _, _
  | .macroCall _ _, _ | .array _, _ | .arith _ _ _, _ => .throw _ _

theorem joinedText : ∀ (escape : Bool) {ps : List Operand}, T.permit.Calls (callsOfParts ps) →
    T.Parallel (· = ·) (ev₁.joinedText j₁ escape ps) (ev₂.joinedText j₂ escape ps)
  | _, [], _ => .pure rfl
  | escape, _ :: _, hps => by
    obtain ⟨hp, hps⟩ := Permit.calls_cons_part hps
    refine .andThen (h.partText escape hp) fun s => ?_
    refine .andThen (joinedText s.2 hps) fun rest => ?_
    exact .pure rfl

theorem itemValues : ∀ {es : List Expr}, T.permit.Calls (callsOfExprs es) →
    T.Parallel (· = ·) (ev₁.itemValues es) (ev₂.itemValues es)
  | [], _ => .pure rfl
  | _ :: _, hes => by
    obtain ⟨he, hes⟩ := Permit.calls_cons_expr hes
    exact .andThen (h.value he) fun _ => .andThen (itemValues hes) fun _ => .pure rfl

theorem fallbackValue {cs : List Call} (hcs : T.permit.Calls (callsOfFilters cs)) :
    T.Parallel (· = ·) (ev₁.fallbackValue cs) (ev₂.fallbackValue cs) := by
  unfold Evaluator.fallbackValue
  split
  · rename_i e he
    obtain ⟨c, hc, he⟩ := Option.bind_eq_some_iff.mp he
    obtain ⟨cs, rfl⟩ := List.head?_eq_some_iff.mp hc
    exact h.value (Permit.calls_arg? (Permit.calls_cons_filter hcs).1 he)
  · exact .throw _ _

theorem pathValue {e : Expr} (he : T.permit.Calls e.calls) (path : String) :
    T.Parallel (· = ·) (ev₁.pathValue j₁ e path) (ev₂.pathValue j₂ e path) := by
  have hf := h.fallbackValue (Permit.calls_expr he).2
  refine .get fun s₁ s₂ hs => ?_
  have hl := hs.lookup path
  generalize j₁.lookup s₁ path = r₁, j₂.lookup s₂ path = r₂ at hl
  match r₁, r₂, hl with
  | .ok v, .ok _, rfl =>
    split
    · exact .andThen hf fun _ => .pure rfl
    · exact .pure rfl
    all_goals contradiction
  | .error _, .error _, _ =>
    cases e.filters.head?.any (·.name == "default") with
    | true => exact .andThen hf fun _ => .pure rfl
    | false =>
      dsimp only
      split
      · exact .pure rfl
      · exact .throw _ _

theorem operandValue {e : Expr} (he : T.permit.Calls e.calls) :
    T.Parallel (· = ·) (ev₁.operandValue j₁ e) (ev₂.operandValue j₂ e) := by
  have ho := (Permit.calls_expr he).1
  unfold Evaluator.operandValue
  generalize hoe : e.operand = o at ho
  cases o with
  | array es => exact .andThen (h.itemValues ho) fun _ => .pure rfl
  | within n l r =>
    rw [Operand.calls, Permit.calls_append] at ho
    exact .andThen (h.within n ho.1 ho.2) fun _ => .pure rfl
  | str | int | float | bool => exact .pure rfl
  | concat ps => exact .andThen (h.joinedText false ho) fun _ => .pure rfl
  | path p => exact .andThen (h.pathValue he p) fun _ => .pure rfl
  | call c => exact .andThen (h.call ho) fun _ => .pure rfl
  | macroCall space c =>
    rw [Operand.calls_macroCall] at ho
    exact .andThen (.capture (h.callMacro space ho)) fun _ => .pure rfl
  | test p n name args => exact .andThen (h.test p n name ho) fun _ => .pure rfl
  | logic => exact .andThen (h.truth he) fun _ => .pure rfl
  | arith =>
    refine .andThen (.wrapping _ _ (h.number ho)) fun n => ?_
    split <;> exact .pure rfl

theorem filtered : ∀ (v : Value) (escape : Bool) {cs : List Call},
    T.permit.Calls (callsOfFilters cs) →
    T.Parallel (· = ·) (ev₁.filtered j₁ v escape cs) (ev₂.filtered j₂ v escape cs)
  | _, _, [], _ => .pure rfl
  | v, escape, c :: cs, hcs => by
    obtain ⟨hc, hcs⟩ := Permit.calls_cons_filter hcs
    unfold Evaluator.filtered
    split
    · exact filtered v escape hcs
    · exact .andThen (h.filter v hc) fun w => filtered w true hcs

theorem exprValue {e : Expr} (he : T.permit.Calls e.calls) :
    T.Parallel (· = ·) (ev₁.exprValue j₁ e) (ev₂.exprValue j₂ e) := by
  refine .andThen (h.operandValue he) fun r => ?_
  split
  · exact .pure rfl
  refine .andThen (h.filtered _ _ (Permit.calls_expr he).2) fun (v, escape) => ?_
  dsimp only
  split
  · exact .pure rfl
  split
  · refine .get fun s₁ s₂ hs => ?_
    rw [hs.escaping]
    split <;> exact .pure rfl
  · exact .pure rfl

end Twin.Evaluators

end ViewWeave
