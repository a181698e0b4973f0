import ViewWeave.Markup.Calls

/-!
# Where calls stand

A call stands in a template as an operand or as a filter, in one of the places where expressions and
bodies can stand, at any depth. Which functions a template calls is told by these places.
-/

namespace ViewWeave

inductive CallKind
  | function | macroCall | filter

mutual

/-- A call of a kind stands somewhere in an expression. -/
inductive Expr.Has (c : Call) : CallKind → Expr → Prop
  | operand {k o n fs} : Operand.Has c k o → Expr.Has c k (.mk o n fs)
  | filter {o n fs} : c ∈ fs → Expr.Has c .filter (.mk o n fs)
  | filterArg {k o n fs f a} : f ∈ fs → a ∈ f.args → Expr.Has c k a.value →
    Expr.Has c k (.mk o n fs)

inductive Operand.Has (c : Call) : CallKind → Operand → Prop
  | arithLeft {k op l r} : Expr.Has c k l → Operand.Has c k (.arith op l r)
  | arithRight {k op l r} : Expr.Has c k r → Operand.Has c k (.arith op l r)
  | logicLeft {k op l r} : Expr.Has c k l → Operand.Has c k (.logic op l r)
  | logicRight {k op l r} : Expr.Has c k r → Operand.Has c k (.logic op l r)
  | withinLeft {k n l r} : Expr.Has c k l → Operand.Has c k (.within n l r)
  | withinRight {k n l r} : Expr.Has c k r → Operand.Has c k (.within n l r)
  | testArg {k p n name es e} : e ∈ es → Expr.Has c k e → Operand.Has c k (.test p n name es)
  | call : Operand.Has c .function (.call c)
  | callArg {k g a} : a ∈ g.args → Expr.Has c k a.value → Operand.Has c k (.call g)
  | macroCall {s} : Operand.Has c .macroCall (.macroCall s c)
  | macroArg {k s g a} : a ∈ g.args → Expr.Has c k a.value → Operand.Has c k (.macroCall s g)
  | item {k es e} : e ∈ es → Expr.Has c k e → Operand.Has c k (.array es)
  | part {k ps p} : p ∈ ps → Operand.Has c k p → Operand.Has c k (.concat ps)

end

inductive Node.Has (c : Call) : CallKind → Node → Prop
  | output {k m e} : e.Has c k → Node.Has c k (.output m e)
  | set {k m x e g} : e.Has c k → Node.Has c k (.set m x e g)
  | block {k o x body m n} : n ∈ body → Node.Has c k n → Node.Has c k (.block o x body m)
  | container {k o x y e body empty m} : e.Has c k → Node.Has c k (.loop o x y e body empty m)
  | turn {k o x y e body empty m n} :
    n ∈ body → Node.Has c k n → Node.Has c k (.loop o x y e body empty m)
  | noTurn {k o x y e body empty m n} :
    n ∈ empty → Node.Has c k n → Node.Has c k (.loop o x y e body empty m)
  | condition {k bs o m b} : b ∈ bs → b.condition.Has c k → Node.Has c k (.cond bs o m)
  | branch {k bs o m b n} : b ∈ bs → n ∈ b.body → Node.Has c k n → Node.Has c k (.cond bs o m)
  | otherwise {k bs body m m' n} : n ∈ body → Node.Has c k n →
    Node.Has c k (.cond bs (some (m, body)) m')
  | filter {o body m} : Node.Has c .filter (.filtered o c body m)
  | filterArg {k o f body m a} : a ∈ f.args → a.value.Has c k → Node.Has c k (.filtered o f body m)
  | filtered {k o f body m n} : n ∈ body → Node.Has c k n → Node.Has c k (.filtered o f body m)
  | fallback {k o x ps body m p e} : p ∈ ps → p.fallback = some e → e.Has c k →
    Node.Has c k (.define o x ps body m)
  | definition {k o x ps body m n} : n ∈ body → Node.Has c k n →
    Node.Has c k (.define o x ps body m)

def Expr.Calls (f : String) (e : Expr) : Prop := ∃ args, e.Has (.mk f args) .function

def Operand.Calls (f : String) (o : Operand) : Prop := ∃ args, o.Has (.mk f args) .function

def Node.Calls (f : String) (n : Node) : Prop := ∃ args, n.Has (.mk f args) .function

/-! ## The calls of a list -/

theorem callsOfExprs_eq (es : List Expr) : callsOfExprs es = es.flatMap Expr.calls := by
  induction es with
  | nil => rfl
  | cons e es ih => rw [callsOfExprs, List.flatMap_cons, ih]

theorem callsOfParts_eq (ps : List Operand) : callsOfParts ps = ps.flatMap Operand.calls := by
  induction ps with
  | nil => rfl
  | cons p ps ih => rw [callsOfParts, List.flatMap_cons, ih]

theorem callsOfArgs_eq (as : List Arg) :
    callsOfArgs as = as.reverse.flatMap fun a => a.value.calls := by
  induction as with
  | nil => rfl
  | cons a as ih =>
    obtain ⟨n, e⟩ := a
    rw [callsOfArgs, List.reverse_cons, List.flatMap_append, List.flatMap_singleton, ih]
    rfl

theorem callsOfFilters_eq (fs : List Call) :
    callsOfFilters fs = fs.flatMap fun f => callsOfArgs f.args := by
  induction fs with
  | nil => rfl
  | cons f fs ih =>
    obtain ⟨n, as⟩ := f
    rw [callsOfFilters, List.flatMap_cons, ih]
    rfl

theorem callsOfParams_eq (ps : List Param) :
    callsOfParams ps = ps.flatMap fun p => (p.fallback.map Expr.calls).getD [] := by
  induction ps with
  | nil => rfl
  | cons p ps ih => rw [callsOfParams, List.flatMap_cons, ih]

theorem callsOfNodes_eq (ns : List Node) : callsOfNodes ns = ns.flatMap Node.calls := by
  induction ns with
  | nil => rfl
  | cons n ns ih => rw [callsOfNodes, List.flatMap_cons, ih]

theorem callsOfBranches_eq (bs : List Branch) :
    callsOfBranches bs = bs.flatMap fun b => b.condition.calls ++ callsOfNodes b.body := by
  induction bs with
  | nil => rfl
  | cons b bs ih =>
    obtain ⟨m, e, body⟩ := b
    rw [callsOfBranches, List.flatMap_cons, ih, List.append_assoc]
    rfl

/-! ## The calls of an expression -/

variable {f : String}

/-- A function that one of two sides calls is called in an operand that has both. -/
theorem Operand.Calls.of_sides {l r : Expr} {o : Operand}
    (left : ∀ {c}, l.Has c .function → o.Has c .function)
    (right : ∀ {c}, r.Has c .function → o.Has c .function) (h : l.Calls f ∨ r.Calls f) :
    o.Calls f := by
  obtain ⟨args, has⟩ | ⟨args, has⟩ := h
  · exact ⟨args, left has⟩
  · exact ⟨args, right has⟩

mutual

theorem Expr.calls_of_mem : ∀ {e : Expr}, f ∈ e.calls → e.Calls f
  | .mk o n fs, h => by
    rw [Expr.calls] at h
    rcases List.mem_append.mp h with h | h
    · obtain ⟨args, has⟩ := Operand.calls_of_mem h
      exact ⟨args, .operand has⟩
    · obtain ⟨g, hg, a, ha, args, has⟩ := calls_of_mem_filters h
      exact ⟨args, .filterArg hg ha has⟩

theorem Operand.calls_of_mem : ∀ {o : Operand}, f ∈ o.calls → o.Calls f
  | .arith _ l r, h =>
    .of_sides .arithLeft .arithRight <|
      (List.mem_append.mp h).imp (fun h => Expr.calls_of_mem h) fun h => Expr.calls_of_mem h
  | .logic _ l r, h =>
    .of_sides .logicLeft .logicRight <|
      (List.mem_append.mp h).imp (fun h => Expr.calls_of_mem h) fun h => Expr.calls_of_mem h
  | .within _ l r, h =>
    .of_sides .withinLeft .withinRight <|
      (List.mem_append.mp h).imp (fun h => Expr.calls_of_mem h) fun h => Expr.calls_of_mem h
  | .test _ _ _ es, h => by
    obtain ⟨e, he, args, has⟩ := calls_of_mem_exprs h
    exact ⟨args, .testArg he has⟩
  | .call (.mk n as), h => by
    rw [Operand.calls] at h
    rcases List.mem_cons.mp h with rfl | h
    · exact ⟨as, .call⟩
    · obtain ⟨a, ha, args, has⟩ := calls_of_mem_args h
      exact ⟨args, .callArg ha has⟩
  | .macroCall _ (.mk n as), h => by
    obtain ⟨a, ha, args, has⟩ := calls_of_mem_args h
    exact ⟨args, .macroArg ha has⟩
  | .array es, h => by
    obtain ⟨e, he, args, has⟩ := calls_of_mem_exprs h
    exact ⟨args, .item he has⟩
  | .concat ps, h => by
    obtain ⟨p, hp, args, has⟩ := calls_of_mem_parts h
    exact ⟨args, .part hp has⟩

theorem calls_of_mem_exprs : ∀ {es : List Expr}, f ∈ callsOfExprs es → ∃ e ∈ es, e.Calls f
  | e :: es, h => by
    rw [callsOfExprs] at h
    rcases List.mem_append.mp h with h | h
    · exact ⟨e, List.mem_cons_self .., Expr.calls_of_mem h⟩
    · obtain ⟨e, he, calls⟩ := calls_of_mem_exprs h
      exact ⟨e, List.mem_cons_of_mem _ he, calls⟩

theorem calls_of_mem_parts : ∀ {ps : List Operand}, f ∈ callsOfParts ps → ∃ p ∈ ps, p.Calls f
  | p :: ps, h => by
    rw [callsOfParts] at h
    rcases List.mem_append.mp h with h | h
    · exact ⟨p, List.mem_cons_self .., Operand.calls_of_mem h⟩
    · obtain ⟨p, hp, calls⟩ := calls_of_mem_parts h
      exact ⟨p, List.mem_cons_of_mem _ hp, calls⟩

theorem calls_of_mem_args : ∀ {as : List Arg}, f ∈ callsOfArgs as → ∃ a ∈ as, a.value.Calls f
  | .mk n e :: as, h => by
    rw [callsOfArgs] at h
    rcases List.mem_append.mp h with h | h
    · obtain ⟨a, ha, calls⟩ := calls_of_mem_args h
      exact ⟨a, List.mem_cons_of_mem _ ha, calls⟩
    · exact ⟨.mk n e, List.mem_cons_self .., Expr.calls_of_mem h⟩

theorem calls_of_mem_filters : ∀ {fs : List Call}, f ∈ callsOfFilters fs →
    ∃ g ∈ fs, ∃ a ∈ g.args, a.value.Calls f
  | .mk n as :: fs, h => by
    rw [callsOfFilters] at h
    rcases List.mem_append.mp h with h | h
    · exact ⟨.mk n as, List.mem_cons_self .., calls_of_mem_args h⟩
    · obtain ⟨g, hg, calls⟩ := calls_of_mem_filters h
      exact ⟨g, List.mem_cons_of_mem _ hg, calls⟩

end

section
variable {c : Call}

theorem mem_callsOfArgs {as : List Arg} {a : Arg} (ha : a ∈ as) (h : f ∈ a.value.calls) :
    f ∈ callsOfArgs as := by
  rw [callsOfArgs_eq]
  exact List.mem_flatMap.mpr ⟨a, List.mem_reverse.mpr ha, h⟩

mutual

theorem Expr.mem_of_has : ∀ {k : CallKind} {e : Expr}, e.Has c k → k = .function → c.name ∈ e.calls
  | _, _, .operand h, hk => List.mem_append_left _ (Operand.mem_of_has h hk)
  | _, _, .filterArg hg ha h, hk => by
    refine List.mem_append_right _ ?_
    rw [callsOfFilters_eq]
    exact List.mem_flatMap.mpr ⟨_, hg, mem_callsOfArgs ha (Expr.mem_of_has h hk)⟩

theorem Operand.mem_of_has : ∀ {k : CallKind} {o : Operand}, o.Has c k → k = .function →
    c.name ∈ o.calls
  | _, _, .arithLeft h, hk | _, _, .logicLeft h, hk | _, _, .withinLeft h, hk =>
    List.mem_append_left _ (Expr.mem_of_has h hk)
  | _, _, .arithRight h, hk | _, _, .logicRight h, hk | _, _, .withinRight h, hk =>
    List.mem_append_right _ (Expr.mem_of_has h hk)
  | _, .test _ _ _ es, .testArg he h, hk => by
    rw [Operand.calls, callsOfExprs_eq]
    exact List.mem_flatMap.mpr ⟨_, he, Expr.mem_of_has h hk⟩
  | _, _, .call, _ => by
    cases c
    exact List.mem_cons_self ..
  | _, .call (.mk _ _), .callArg ha h, hk =>
    List.mem_cons_of_mem _ (mem_callsOfArgs ha (Expr.mem_of_has h hk))
  | _, .macroCall _ (.mk _ _), .macroArg ha h, hk => mem_callsOfArgs ha (Expr.mem_of_has h hk)
  | _, .array es, .item he h, hk => by
    rw [Operand.calls, callsOfExprs_eq]
    exact List.mem_flatMap.mpr ⟨_, he, Expr.mem_of_has h hk⟩
  | _, .concat ps, .part hp h, hk => by
    rw [Operand.calls, callsOfParts_eq]
    exact List.mem_flatMap.mpr ⟨_, hp, Operand.mem_of_has h hk⟩

end

end

/-- A function is called in an expression just if it is among the expression's calls. -/
theorem Expr.mem_calls_iff {e : Expr} : f ∈ e.calls ↔ e.Calls f :=
  ⟨Expr.calls_of_mem, fun ⟨_, has⟩ => Expr.mem_of_has has rfl⟩

/-! ## The calls of a node -/

theorem calls_of_mem_params {ps : List Param} (h : f ∈ callsOfParams ps) :
    ∃ p ∈ ps, ∃ e, p.fallback = some e ∧ e.Calls f := by
  rw [callsOfParams_eq] at h
  obtain ⟨p, hp, h⟩ := List.mem_flatMap.mp h
  cases he : p.fallback with
  | none =>
    rw [he] at h
    exact absurd h List.not_mem_nil
  | some e =>
    rw [he] at h
    exact ⟨p, hp, e, he, Expr.calls_of_mem h⟩

mutual

theorem Node.calls_of_mem : ∀ {n : Node}, f ∈ n.calls → n.Calls f
  | .output _ e, h => by
    obtain ⟨args, has⟩ := Expr.calls_of_mem h
    exact ⟨args, .output has⟩
  | .set _ _ e _, h => by
    obtain ⟨args, has⟩ := Expr.calls_of_mem h
    exact ⟨args, .set has⟩
  | .block _ _ body _, h => by
    obtain ⟨n, hn, args, has⟩ := calls_of_mem_nodes h
    exact ⟨args, .block hn has⟩
  | .loop _ _ _ e body empty _, h => by
    rw [Node.calls, List.mem_append, List.mem_append] at h
    rcases h with h | h | h
    · obtain ⟨args, has⟩ := Expr.calls_of_mem h
      exact ⟨args, .container has⟩
    · obtain ⟨n, hn, args, has⟩ := calls_of_mem_nodes h
      exact ⟨args, .turn hn has⟩
    · obtain ⟨n, hn, args, has⟩ := calls_of_mem_nodes h
      exact ⟨args, .noTurn hn has⟩
  | .cond bs none _, h => by
    obtain ⟨b, hb, ⟨args, has⟩ | ⟨n, hn, args, has⟩⟩ := calls_of_mem_branches h
    · exact ⟨args, .condition hb has⟩
    · exact ⟨args, .branch hb hn has⟩
  | .cond bs (some (_, body)) _, h => by
    rw [Node.calls, List.mem_append] at h
    rcases h with h | h
    · obtain ⟨b, hb, ⟨args, has⟩ | ⟨n, hn, args, has⟩⟩ := calls_of_mem_branches h
      · exact ⟨args, .condition hb has⟩
      · exact ⟨args, .branch hb hn has⟩
    · obtain ⟨n, hn, args, has⟩ := calls_of_mem_nodes h
      exact ⟨args, .otherwise hn has⟩
  | .filtered _ (.mk _ as) body _, h => by
    rw [Node.calls, List.mem_append] at h
    rcases h with h | h
    · obtain ⟨a, ha, args, has⟩ := calls_of_mem_args h
      exact ⟨args, .filterArg ha has⟩
    · obtain ⟨n, hn, args, has⟩ := calls_of_mem_nodes h
      exact ⟨args, .filtered hn has⟩
  | .define _ _ ps body _, h => by
    rw [Node.calls, List.mem_append] at h
    rcases h with h | h
    · obtain ⟨p, hp, e, he, args, has⟩ := calls_of_mem_params h
      exact ⟨args, .fallback hp he has⟩
    · obtain ⟨n, hn, args, has⟩ := calls_of_mem_nodes h
      exact ⟨args, .definition hn has⟩

theorem calls_of_mem_nodes : ∀ {ns : List Node}, f ∈ callsOfNodes ns → ∃ n ∈ ns, n.Calls f
  | n :: ns, h => by
    rw [callsOfNodes] at h
    rcases List.mem_append.mp h with h | h
    · exact ⟨n, List.mem_cons_self .., Node.calls_of_mem h⟩
    · obtain ⟨n, hn, calls⟩ := calls_of_mem_nodes h
      exact ⟨n, List.mem_cons_of_mem _ hn, calls⟩

theorem calls_of_mem_branches : ∀ {bs : List Branch}, f ∈ callsOfBranches bs →
    ∃ b ∈ bs, b.condition.Calls f ∨ ∃ n ∈ b.body, n.Calls f
  | .mk m e body :: bs, h => by
    rw [callsOfBranches, List.mem_append, List.mem_append] at h
    rcases h with h | h | h
    · exact ⟨.mk m e body, List.mem_cons_self .., .inl (Expr.calls_of_mem h)⟩
    · exact ⟨.mk m e body, List.mem_cons_self .., .inr (calls_of_mem_nodes h)⟩
    · obtain ⟨b, hb, calls⟩ := calls_of_mem_branches h
      exact ⟨b, List.mem_cons_of_mem _ hb, calls⟩

end

section
variable {c : Call}

theorem mem_callsOfNodes {ns : List Node} {n : Node} (hn : n ∈ ns) (h : f ∈ n.calls) :
    f ∈ callsOfNodes ns := by
  rw [callsOfNodes_eq]
  exact List.mem_flatMap.mpr ⟨n, hn, h⟩

theorem mem_callsOfBranches {bs : List Branch} {b : Branch} (hb : b ∈ bs)
    (h : f ∈ b.condition.calls ∨ f ∈ callsOfNodes b.body) : f ∈ callsOfBranches bs := by
  rw [callsOfBranches_eq]
  exact List.mem_flatMap.mpr ⟨b, hb, List.mem_append.mpr h⟩

theorem mem_calls_cond {bs : List Branch} {o : Option (Marks × List Node)} {m : Marks}
    (h : f ∈ callsOfBranches bs) : f ∈ (Node.cond bs o m).calls := by
  cases o with
  | none => exact h
  | some other => exact List.mem_append_left _ h

theorem Node.mem_of_has {k : CallKind} {n : Node} (h : n.Has c k) (hk : k = .function) :
    c.name ∈ n.calls := by
  induction h with
  | output h | set h => exact Expr.mem_of_has h hk
  | block hn _ ih => exact mem_callsOfNodes hn (ih hk)
  | container h => exact List.mem_append_left _ (Expr.mem_of_has h hk)
  | turn hn _ ih =>
    exact List.mem_append_right _ (List.mem_append_left _ (mem_callsOfNodes hn (ih hk)))
  | noTurn hn _ ih =>
    exact List.mem_append_right _ (List.mem_append_right _ (mem_callsOfNodes hn (ih hk)))
  | condition hb h => exact mem_calls_cond (mem_callsOfBranches hb (.inl (Expr.mem_of_has h hk)))
  | branch hb hn _ ih =>
    exact mem_calls_cond (mem_callsOfBranches hb (.inr (mem_callsOfNodes hn (ih hk))))
  | otherwise hn _ ih => exact List.mem_append_right _ (mem_callsOfNodes hn (ih hk))
  | filter => cases hk
  | @filterArg _ _ g _ _ a ha h =>
    cases g
    exact List.mem_append_left _ (mem_callsOfArgs ha (Expr.mem_of_has h hk))
  | filtered hn _ ih => exact List.mem_append_right _ (mem_callsOfNodes hn (ih hk))
  | @fallback _ _ _ ps _ _ p e hp he h =>
    refine List.mem_append_left _ ?_
    rw [callsOfParams_eq]
    refine List.mem_flatMap.mpr ⟨p, hp, ?_⟩
    rw [he]
    exact Expr.mem_of_has h hk
  | definition hn _ ih => exact List.mem_append_right _ (mem_callsOfNodes hn (ih hk))

end

/-- The functions that nodes call are those that stand somewhere in them. -/
theorem mem_callsOfNodes_iff {ns : List Node} : f ∈ callsOfNodes ns ↔ ∃ n ∈ ns, n.Calls f := by
  constructor
  · exact calls_of_mem_nodes
  · rintro ⟨n, hn, args, has⟩
    exact mem_callsOfNodes hn (Node.mem_of_has has rfl)

end ViewWeave
