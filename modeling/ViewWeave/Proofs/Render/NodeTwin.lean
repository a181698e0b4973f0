import ViewWeave.Proofs.Render.ExprTwin

/-!
# Nodes in two renderings

Each node is walked through by two renderings in parallel, and by induction on the levels so are
whole templates: `level_parallel`. In the end both renderings wrote the same, called the same
functions, and fail together or not at all: `runInto_parallel`.
-/

namespace ViewWeave

/-! ## What the parts of a node may do -/

namespace Permit

variable {P : Permit}

structure Tag (P : Permit) (n : Node) : Prop where
  calls : P.Calls n.calls
  links : P.Links n.links

structure Branches (P : Permit) (bs : List Branch) : Prop where
  calls : P.Calls (callsOfBranches bs)
  links : P.Links (linksOfBranches bs)

theorem nodes_cons {n : Node} {ns : List Node} (h : P.Nodes (n :: ns)) : P.Tag n ∧ P.Nodes ns := by
  obtain ⟨hc, hl⟩ := h
  rw [callsOfNodes, calls_append] at hc
  rw [linksOfNodes, links_append] at hl
  exact ⟨⟨hc.1, hl.1⟩, hc.2, hl.2⟩

theorem branches_cons {b : Branch} {bs : List Branch} (h : P.Branches (b :: bs)) :
    P.Calls b.condition.calls ∧ P.Nodes b.body ∧ P.Branches bs := by
  cases b
  obtain ⟨hc, hl⟩ := h
  rw [callsOfBranches, calls_append, calls_append] at hc
  rw [linksOfBranches, links_append] at hl
  exact ⟨hc.1, ⟨hc.2.1, hl.1⟩, hc.2.2, hl.2⟩

theorem tag_loop {o c : Marks} {key : Option String} {value : String} {e : Expr}
    {body empty : List Node} (h : P.Tag (.loop o key value e body empty c)) :
    P.Calls e.calls ∧ P.Nodes body ∧ P.Nodes empty := by
  obtain ⟨hc, hl⟩ := h
  rw [Node.calls, calls_append, calls_append] at hc
  rw [Node.links, links_append] at hl
  exact ⟨hc.1, ⟨hc.2.1, hl.1⟩, hc.2.2, hl.2⟩

theorem tag_cond {bs : List Branch} {otherwise : Option (Marks × List Node)} {c : Marks}
    (h : P.Tag (.cond bs otherwise c)) :
    P.Branches bs ∧ P.Nodes ((otherwise.map (·.2)).getD []) := by
  obtain ⟨hc, hl⟩ := h
  cases otherwise with
  | none => exact ⟨⟨hc, hl⟩, nodes_nil⟩
  | some o =>
    rw [Node.calls, calls_append] at hc
    rw [Node.links, links_append] at hl
    exact ⟨⟨hc.1, hl.1⟩, hc.2, hl.2⟩

theorem tag_filtered {o c : Marks} {f : Call} {body : List Node}
    (h : P.Tag (.filtered o f body c)) :
    P.Calls (callsOfArgs f.args) ∧ P.Nodes body := by
  obtain ⟨hc, hl⟩ := h
  rw [Node.calls, calls_append, f.argCalls_eq] at hc
  exact ⟨hc.1, hc.2, hl⟩

end Permit

namespace Twin

variable {j₁ j₂ : Job} {T : Twin j₁ j₂}

/-! ## Loops -/

theorem Matches.signal {s₁ s₂ : State} (h : T.Matches s₁ s₂) :
    Evaluator.signal s₁ = Evaluator.signal s₂ := by
  have hf := rel_head? h.frames
  unfold Evaluator.signal
  generalize s₁.frames.head? = f, s₂.frames.head? = g at hf
  cases hf with
  | none => rfl
  | some hf => rw [Option.bind_some, Option.bind_some, hf.turn]

theorem Parallel.tellLoop (s : Signal) (word : String) :
    T.Parallel (· = ·) (Evaluator.tellLoop s word) (Evaluator.tellLoop s word) := by
  refine .get fun s₁ s₂ hs => ?_
  have hf := rel_head? hs.frames
  generalize s₁.frames.head? = f, s₂.frames.head? = g at hf
  cases hf with
  | none => exact .throw _ _
  | some hf =>
    rw [Option.bind_some, Option.bind_some, hf.turn]
    split
    · exact .onFrame fun a b hab => { hab with turn := by rw [hab.turn] }
    · exact .throw _ _

namespace Evaluators

variable {ev₁ ev₂ : Evaluator} (h : T.Evaluators ev₁ ev₂)
include h

theorem turns (key : Option String) (value : String) {body : List Node} (hb : T.permit.Nodes body) :
    ∀ (index : Nat) (items : List (String × Value)),
      T.Parallel (· = ·) (ev₁.turns key value body index items)
        (ev₂.turns key value body index items)
  | _, [] => .pure rfl
  | index, (k, v) :: rest => by
    refine .andThen (.onFrame fun a b hab => ?_) fun _ => ?_
    · exact { hab with
        vars := rfl
        turn := by rw [Evaluator.enterTurn, Evaluator.enterTurn, hab.turn] }
    refine .andThen (h.body hb) fun _ => ?_
    -- both loops were told the same, so they stop at the same item
    refine .get fun s₁ s₂ hs => ?_
    rw [hs.signal]
    split
    · exact .pure rfl
    · exact turns key value hb (index + 1) rest

theorem loop (key : Option String) (value : String) {e : Expr} {body empty : List Node}
    (he : T.permit.Calls e.calls) (hb : T.permit.Nodes body) (hn : T.permit.Nodes empty) :
    T.Parallel (· = ·) (ev₁.loop j₁ key value e body empty)
      (ev₂.loop j₂ key value e body empty) := by
  refine .andThen (.ofExcept (Alike.refl _)) fun name => ?_
  refine .andThen (h.plain he) fun v => ?_
  refine .andThen (.ofExcept (Alike.refl _)) fun items => ?_
  split
  · exact h.body hn
  · refine .get fun s₁ s₂ hs => ?_
    refine .andThen (.push ⟨rfl, hs.active, rfl, rfl⟩) fun _ => ?_
    exact .andThen (h.turns key value hb 0 _) fun _ => .pop

/-! ## Blocks -/

omit h in
theorem blockBody? (name : String) : ∀ (level : Nat) {ts : List String},
    (∀ t ∈ ts, Option.Rel T.like (j₁.template? t) (j₂.template? t) ∧
      SameMacros T.permit T.like j₁.engine.library j₂.engine.library t t) →
    Option.Rel (fun a b => T.Marks a.1 b.1 ∧ a.2 = b.2 ∧ T.permit.Nodes a.2)
      (Evaluator.blockBody? j₁ name level ts) (Evaluator.blockBody? j₂ name level ts)
  | _, [], _ => .none
  | level, t :: ts, hts => by
    obtain ⟨ht, hm⟩ := hts t (List.mem_cons_self ..)
    have rest := blockBody? name (level + 1) fun u hu => hts u (List.mem_cons_of_mem _ hu)
    unfold Evaluator.blockBody?
    generalize j₁.template? t = a, j₂.template? t = b at ht
    cases ht with
    | none => exact rest
    | @some a b hab =>
      obtain ⟨hbs, ok⟩ := T.blocks hab
      rw [Option.bind_some, Option.bind_some, ← hbs]
      cases hl : a.blocks.lookup name with
      | none => exact rest
      | some body =>
        obtain ⟨_, _, he, _⟩ := List.lookup_eq_some_iff.mp hl
        exact .some ⟨⟨rfl, rfl, hm⟩, rfl, ok (name, body) (by simp [he])⟩

theorem block (name : String) {body : List Node} (hb : T.permit.Nodes body) :
    T.Parallel (· = ·) (ev₁.block j₁ name body) (ev₂.block j₂ name body) := by
  refine .get fun s₁ s₂ hs => ?_
  have ha := hs.active
  obtain ⟨hbs, ok⟩ := T.blocks ha
  obtain ⟨hps, found⟩ := T.parents ha
  dsimp only
  rw [← hbs, ← hps]
  have enter {m n : BlockMark} (hmn : T.Marks m n) {ns : List Node} (hns : T.permit.Nodes ns) :=
    Parallel.andThen (Parallel.modify (f := fun st => { st with blocks := m :: st.blocks })
      (g := fun st => { st with blocks := n :: st.blocks })
      fun _ _ (hs : T.Matches _ _) => { hs with blocks := .cons hmn hs.blocks }) fun _ => h.body hns
  -- the body of the template itself, or of the nearest one below it, or the one that stands here
  cases hl : (j₁.active s₁).blocks.lookup name with
  | some body =>
    obtain ⟨_, _, he, _⟩ := List.lookup_eq_some_iff.mp hl
    have hm : T.Marks ⟨name, (j₁.active s₁).name, 0⟩ ⟨name, (j₂.active s₂).name, 0⟩ :=
      ⟨rfl, rfl, T.macros ha⟩
    exact enter hm (ok (name, body) (by simp [he]))
  | none =>
    have hr := blockBody? (T := T) name 1 found
    dsimp only
    generalize Evaluator.blockBody? j₁ name 1 _ = r₁, Evaluator.blockBody? j₂ name 1 _ = r₂ at hr
    cases hr with
    | none => exact h.body hb
    | @some a b hab =>
      obtain ⟨m, ns⟩ := a
      obtain ⟨n, _⟩ := b
      obtain ⟨hmn, rfl, hns⟩ := hab
      exact enter hmn hns

theorem lowerBlock : T.Parallel (· = ·) (ev₁.lowerBlock j₁) (ev₂.lowerBlock j₂) := by
  refine .get fun s₁ s₂ hs => ?_
  have hm := rel_head? hs.blocks
  obtain ⟨hps, found⟩ := T.parents T.template
  generalize s₁.blocks.head? = m, s₂.blocks.head? = n at hm
  cases hm with
  | none => exact .throw _ _
  | @some m n hm =>
    dsimp only
    rw [← hm.name, ← hm.level, ← hps]
    have hr := blockBody? (T := T) m.name (m.level + 1)
      fun t ht => found t (List.mem_of_mem_drop (i := m.level) ht)
    generalize Evaluator.blockBody? j₁ m.name _ _ = r₁,
      Evaluator.blockBody? j₂ m.name _ _ = r₂ at hr
    cases hr with
    | none => exact .throw _ _
    | @some a b hab =>
      obtain ⟨a, body⟩ := a
      obtain ⟨b, _⟩ := b
      obtain ⟨hmn, rfl, hns⟩ := hab
      dsimp only
      refine .andThen (.modify fun _ _ hs => { hs with blocks := .cons hmn hs.blocks }) fun _ => ?_
      refine .andThen (h.body hns) fun _ => ?_
      rw [hmn.level]
      exact .modify fun _ _ hs => { hs with blocks := List.forall₂_drop _ hs.blocks }

/-! ## Nodes -/

theorem branches {otherwise : List Node} (ho : T.permit.Nodes otherwise) :
    ∀ {bs : List Branch}, T.permit.Branches bs →
      T.Parallel (· = ·) (ev₁.branches otherwise bs) (ev₂.branches otherwise bs)
  | [], _ => h.body ho
  | b :: bs, hbs => by
    obtain ⟨hc, hb, hbs⟩ := Permit.branches_cons hbs
    refine .andThen (h.truth hc) fun t => ?_
    split
    · exact h.body hb
    · exact branches ho hbs

theorem node : ∀ {n : Node}, T.permit.Tag n → T.Parallel (· = ·) (ev₁.node j₁ n) (ev₂.node j₂ n)
  | .text s, _ | .raw _ s _, _ => .write s
  | .comment _, _ | .importing _ _ _, _ | .define _ _ _ _ _, _ => .pure rfl
  | .super, _ => h.lowerBlock
  | .extend _ _, _ => .throw _ _
  | .output _ e, hn => .andThen (h.value hn.calls) fun v => .putOut v
  | .set _ name e outer, hn => .andThen (h.plain hn.calls) fun v => .assign name v outer
  | .inclusion _ names optional, hn => by
    have ht := T.links (hn.links names (List.mem_singleton_self _))
    unfold Evaluator.node
    dsimp only
    generalize names.findSome? j₁.template? = t, names.findSome? j₂.template? = u at ht
    cases ht with
    | none =>
      dsimp only
      split
      · exact .pure rfl
      · exact .throw _ _
    | @some t u htu =>
      obtain ⟨hns, ok⟩ := T.nodes htu
      dsimp only
      rw [← hns]
      refine .andThen (.push ⟨rfl, htu, rfl, rfl⟩) fun _ => ?_
      exact .andThen (h.body ok) fun _ => .pop
  | .block _ name body _, hn => h.block name ⟨hn.calls, hn.links⟩
  | .loop _ key value e body empty _, hn =>
    have ⟨he, hb, hm⟩ := Permit.tag_loop hn
    h.loop key value he hb hm
  | .cond bs otherwise _, hn =>
    have ⟨hb, ho⟩ := Permit.tag_cond hn
    h.branches ho hb
  | .filtered _ f body _, hn => by
    obtain ⟨hf, hb⟩ := Permit.tag_filtered hn
    refine .andThen (.capture (h.body hb)) fun s => ?_
    split
    · exact .write s
    · exact .andThen (h.filter _ hf) fun v => .write _
  | .stop _, _ => .tellLoop _ _
  | .next _, _ => .tellLoop _ _

theorem nodes : ∀ {ns : List Node}, T.permit.Nodes ns →
    T.Parallel (· = ·) (ev₁.nodes j₁ ns) (ev₂.nodes j₂ ns)
  | [], _ => .pure rfl
  | n :: ns, hns => by
    obtain ⟨hn, hns⟩ := Permit.nodes_cons hns
    refine .andThen (h.node hn) fun _ => ?_
    refine .get fun s₁ s₂ hs => ?_
    rw [hs.signal]
    split
    · exact nodes hns
    · exact .pure rfl

theorem next : T.Evaluators (ev₁.next j₁) (ev₂.next j₂) where
  body := h.nodes
  value := h.exprValue
  truth := h.exprTruth
  number := h.operandNumber

end Evaluators

/-! ## Whole renderings -/

theorem level_parallel (T : Twin j₁ j₂) :
    ∀ n, T.Evaluators (Evaluator.level j₁ n) (Evaluator.level j₂ n)
  | 0 =>
    { body := fun _ => .throw _ _
      value := fun _ => .throw _ _
      truth := fun _ => .throw _ _
      number := fun _ => .throw _ _ }
  | n + 1 => (level_parallel T n).next

/-- **Parallel renderings.** Two renderings that have a twin write the same into writers of the same
room and call the same functions, which they may, and either both fail or none. -/
theorem runInto_parallel (T : Twin j₁ j₂) (room : Option Nat) (n : Nat) :
    (j₁.runInto room n).out = (j₂.runInto room n).out ∧
      (j₁.runInto room n).called = (j₂.runInto room n).called ∧
      T.permit.Calls (j₁.runInto room n).called ∧
      ((j₁.runInto room n).fault.isSome ↔ (j₂.runInto room n).fault.isSome) := by
  obtain ⟨hns, ok⟩ := T.nodes T.root
  have hp := (T.level_parallel n).body ok (j₁.start room) (j₂.start room) (T.matches_start room)
  unfold Job.runInto
  rw [← hns]
  match (Evaluator.level j₁ n).body j₁.root.nodes (j₁.start room),
      (Evaluator.level j₂ n).body j₁.root.nodes (j₂.start room), hp with
  | (.ok _, s₁), (.ok _, s₂), ⟨_, ht⟩ | (.error _, s₁), (.error _, s₂), ⟨_, ht⟩ =>
    refine ⟨ht.out, ?_, ?_, by simp⟩
    · exact congrArg List.reverse ht.called
    · exact fun f hf => ht.allowed f (List.mem_reverse.mp hf)
  | (.ok _, _), (.error _, _), ⟨hr, _⟩ => exact hr.elim
  | (.error _, _), (.ok _, _), ⟨hr, _⟩ => exact hr.elim

end Twin

end ViewWeave
