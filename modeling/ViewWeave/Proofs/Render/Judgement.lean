import ViewWeave.Proofs.Markup.Parts
import ViewWeave.Proofs.Render.Spaces
import ViewWeave.Render.Outcome

/-!
# Judgements on the steps of a rendering

A judgement says something of quiet steps, which write nothing, and something of walks through
nodes. `Rules` are the elementary steps it has to agree with. What it says then holds of all
evaluators, by induction on the levels, as long as all nodes are of the kind it is about:
`Sound.level`.
-/

namespace ViewWeave

theorem Eval.ofExcept_ok {α β : Type} (a : α) (k : α → Eval β) :
    Eval.ofExcept (.ok a) >>= k = k a := rfl

/-- What is shown of the steps of renderings. -/
structure Judgement where
  tag : Node → Prop
  quiet : {α : Type} → Eval α → Prop
  walk : {α : Type} → Eval α → Prop
  /-- What else is shown of the evaluation of an expression. -/
  value : Expr → Eval Value → Prop

/-- What follows a look at the state does not depend on the sink. -/
def Apart {α : Type} (k : State → α) : Prop := ∀ st out, k { st with out } = k st

namespace Judgement

variable (J : Judgement)

def Good (fs : List Frame) : Prop := ∀ f ∈ fs, f.template.Every J.tag

/-- The judgement agrees with the elementary steps. -/
structure Rules : Prop where
  pure {α : Type} (a : α) : J.quiet (Pure.pure a)
  throw {α : Type} (f : Fault) : J.quiet (MonadExcept.throw f : Eval α)
  bind {α β : Type} {m : Eval α} {k : α → Eval β} :
    J.quiet m → (∀ a, J.quiet (k a)) → J.quiet (m >>= k)
  get {α : Type} {k : State → Eval α} :
    Apart k → (∀ st, J.Good st.frames → J.quiet (k st)) → J.quiet (MonadState.get >>= k)
  note (f : String) : J.quiet (Eval.note f)
  arrange {f : List Frame → List Frame} {g : List BlockMark → List BlockMark} :
    (∀ fs, J.Good fs → J.Good (f fs)) →
      J.quiet (modify fun st => { st with frames := f st.frames, blocks := g st.blocks })
  capture {m : Eval Unit} : J.walk m → J.quiet (Eval.capture m)
  verbatim {α : Type} {m : Eval α} : J.quiet m → J.quiet (Eval.verbatim m)
  attempt {α : Type} {m : Eval α} : J.quiet m → J.quiet (Eval.attempt m)
  wrapping {α : Type} (wrap : Fault → Fault) {m : Eval α} :
    J.quiet m → J.quiet (Eval.wrapping wrap m)
  walk {α : Type} {m : Eval α} : J.quiet m → J.walk m
  walk_bind {α β : Type} {m : Eval α} {k : α → Eval β} :
    J.walk m → (∀ a, J.walk (k a)) → J.walk (m >>= k)
  walk_get {α : Type} {k : State → Eval α} :
    Apart k → (∀ st, J.Good st.frames → J.walk (k st)) → J.walk (MonadState.get >>= k)
  text {s : String} : J.tag (.text s) → J.walk (Eval.write s)
  raw {s : String} {o c : Marks} : J.tag (.raw o s c) → J.walk (Eval.write s)
  output {marks : Marks} {e : Expr} {m : Eval Value} :
    J.tag (.output marks e) → J.quiet m → J.value e m → J.walk (m >>= Eval.putOut)
  tooDeep (e : Expr) : J.value e (MonadExcept.throw .tooDeep)

structure Evaluators (ev : Evaluator) : Prop where
  body : ∀ {ns}, Every J.tag ns → J.walk (ev.body ns)
  quiet : ∀ e, J.quiet (ev.value e)
  value : ∀ e, J.value e (ev.value e)
  truth : ∀ e, J.quiet (ev.truth e)
  number : ∀ o, J.quiet (ev.number o)

structure Covers (job : Job) : Prop where
  library : ∀ name t, job.engine.library.lookup name = some t → t.Every J.tag
  template : job.template.Every J.tag

variable {J}

/-! ## Frames -/

theorem good_cons {f : Frame} {fs : List Frame} (hf : f.template.Every J.tag) (h : J.Good fs) :
    J.Good (f :: fs) := by
  intro g hg
  rcases List.mem_cons.mp hg with rfl | hg
  · exact hf
  · exact h g hg

theorem Good.setInner {fs : List Frame} (h : J.Good fs) (name : String) (v : Value) :
    J.Good (Frame.setInner name v fs) := by
  cases fs with
  | nil => exact h
  | cons f fs => exact good_cons (h f (by simp)) fun g hg => h g (by simp [hg])

theorem Good.setOuter {fs : List Frame} (h : J.Good fs) (name : String) (v : Value) :
    J.Good (Frame.setOuter name v fs) := by
  induction fs with
  | nil => exact h
  | cons f fs ih =>
    have hf := h f (by simp)
    have hfs : J.Good fs := fun g hg => h g (by simp [hg])
    unfold Frame.setOuter
    split
    · exact good_cons hf (ih hfs)
    · exact good_cons hf hfs

theorem Good.active {job : Job} (hj : J.Covers job) {st : State} (h : J.Good st.frames) :
    (job.active st).Every J.tag := by
  unfold Job.active
  cases hf : st.frames with
  | nil => exact hj.template
  | cons f fs => exact h f (by simp [hf])

theorem Covers.start {job : Job} (h : J.Covers job) (room : Option Nat) :
    J.Good (job.start room).frames :=
  good_cons h.template fun _ hf => absurd hf List.not_mem_nil

theorem Covers.root {job : Job} (h : J.Covers job) : job.root.Every J.tag := by
  unfold Job.root
  cases ht : job.template.parents.getLast?.bind job.template? with
  | none => exact h.template
  | some t =>
    obtain ⟨name, -, hname⟩ := Option.bind_eq_some_iff.mp ht
    exact h.library name t hname

theorem Covers.findMacro {job : Job} (h : J.Covers job) {template space name : String}
    {m : Template × Macro} (hm : job.engine.library.findMacro template space name = .ok m) :
    m.1.Every J.tag ∧ Every J.tag m.2.body := by
  have own : ∀ {t : Template}, t.Every J.tag → ∀ m ∈ t.macroTable, m.2.1.Every J.tag ∧
      Every J.tag m.2.2.body := by
    intro t ht m hm
    obtain ⟨x, hx, rfl⟩ := List.mem_map.mp hm
    exact ⟨ht, ht.macros x hx⟩
  exact Library.findMacro_all (Q := fun m => m.1.Every J.tag ∧ Every J.tag m.2.body) own
    h.library hm

theorem Covers.blockBody? {job : Job} (h : J.Covers job) (name : String) :
    ∀ (level : Nat) {ts : List String} {found : BlockMark × List Node},
      Evaluator.blockBody? job name level ts = some found → Every J.tag found.2
  | _, [], _, hf => by cases hf
  | level, t :: ts, found, hf => by
    unfold Evaluator.blockBody? at hf
    split at hf
    · rename_i body hb
      obtain ⟨u, hu, hbody⟩ := Option.bind_eq_some_iff.mp hb
      cases hf
      exact (h.library t u hu).blocks (name, body) (Sorted.mem_of_lookup hbody)
    · exact h.blockBody? name (level + 1) hf

/-! ## Steps on frames -/

namespace Rules

variable (R : J.Rules)
include R

theorem ofExcept {α : Type} (r : Except Fault α) : J.quiet (Eval.ofExcept r) := by
  cases r with
  | ok a => exact R.pure a
  | error f => exact R.throw f

theorem push {f : Frame} (hf : f.template.Every J.tag) : J.quiet (Eval.push f) :=
  R.arrange (g := id) fun _ h => good_cons hf h

theorem pop : J.quiet Eval.pop :=
  R.arrange (g := id) fun _ h f hf => h f (List.mem_of_mem_tail hf)

theorem onFrame {f : Frame → Frame} (hf : ∀ g, (f g).template = g.template) :
    J.quiet (Eval.onFrame f) := by
  have same : Eval.onFrame f =
      modify fun st => { st with frames := st.frames.modifyHead f, blocks := id st.blocks } := by
    unfold Eval.onFrame
    congr
    funext st
    obtain ⟨frames, _⟩ := st
    cases frames <;> rfl
  rw [same]
  refine R.arrange fun fs h => ?_
  cases fs with
  | nil => exact h
  | cons g rest =>
    refine good_cons ?_ fun x hx => h x (by simp [hx])
    rw [hf]
    exact h g (by simp)

theorem assign (name : String) (v : Value) (outer : Bool) : J.quiet (Job.assign name v outer) := by
  refine R.arrange (g := id)
    (f := fun fs => if outer then Frame.setOuter name v fs else Frame.setInner name v fs)
    fun fs h => ?_
  cases outer with
  | true => exact h.setOuter name v
  | false => exact h.setInner name v

theorem look (job : Job) (path : String) : J.quiet (job.look path) :=
  R.get (fun _ _ => rfl) fun _ _ => R.ofExcept _

end Rules

/-! ## Expressions -/

namespace Evaluators

variable {job : Job} {ev : Evaluator} (h : J.Evaluators ev) (R : J.Rules)
include h R

theorem plain (e : Expr) : J.quiet (ev.plain e) := R.verbatim (h.quiet e)

theorem argValues (wrap : Fault → Fault) : ∀ as : List Arg, J.quiet (ev.argValues wrap as)
  | [] => R.pure _
  | a :: as => by
    refine R.bind (R.wrapping wrap (h.plain R a.value)) fun v => ?_
    exact R.bind (argValues wrap as) fun vs => R.pure _

theorem plainAll (wrap : Fault → Fault) : ∀ es : List Expr, J.quiet (ev.plainAll wrap es)
  | [] => R.pure _
  | e :: es => by
    refine R.bind (R.wrapping wrap (h.plain R e)) fun v => ?_
    exact R.bind (plainAll wrap es) fun vs => R.pure _

theorem call (c : Call) : J.quiet (ev.call job c) := by
  refine R.bind (R.note c.name) fun _ => ?_
  split
  · refine R.bind (h.argValues R _ c.args) fun args => ?_
    split
    · exact R.pure _
    · exact R.throw _
  · exact R.throw _

theorem filter (v : Value) (c : Call) : J.quiet (ev.filter job v c) := by
  unfold Evaluator.filter
  split
  · refine R.bind (h.argValues R _ c.args) fun args => ?_
    split
    · exact R.pure _
    · exact R.throw _
  · exact R.throw _

theorem test (path : String) (negated : Bool) (name : String) (args : List Expr) :
    J.quiet (ev.test job path negated name args) := by
  unfold Evaluator.test
  split
  · refine R.bind (h.plainAll R _ args) fun vs => ?_
    refine R.get (fun _ _ => rfl) fun st _ => ?_
    dsimp only
    split
    · exact R.pure _
    · exact R.throw _
  · exact R.throw _

theorem within (negated : Bool) (l r : Expr) : J.quiet (ev.within negated l r) := by
  refine R.bind (h.plain R l) fun v => ?_
  refine R.bind (h.plain R r) fun w => ?_
  split
  all_goals first | exact R.pure _ | exact R.throw _

theorem bindParams (definition : String) (c : Call) :
    ∀ ps : List Param, J.quiet (ev.bindParams definition c ps)
  | [] => R.pure _
  | p :: ps => by
    have rest (v : Value) := R.bind (bindParams definition c ps) fun vs =>
      R.pure (Fields.insert p.name v vs)
    rw [Evaluator.bindParams]
    cases (c.arg? p.name).or p.fallback with
    | none => exact R.bind (R.throw _) rest
    | some e => exact R.bind (h.plain R e) rest

theorem callMacro (hj : J.Covers job) (space : String) (c : Call) :
    J.walk (ev.callMacro job space c) := by
  refine R.walk_get (fun _ _ => rfl) fun st hst => ?_
  dsimp only
  cases hm : job.engine.library.findMacro (Evaluator.caller job st) space c.name with
  | error f => exact R.walk (R.throw f)
  | ok m =>
    obtain ⟨owner, definition⟩ := m
    obtain ⟨ho, hd⟩ := hj.findMacro hm
    rw [Eval.ofExcept_ok]
    refine R.walk_bind (R.walk (h.bindParams R c.name c definition.params)) fun vars => ?_
    refine R.walk_bind (R.walk (R.push ho)) fun _ => ?_
    exact R.walk_bind (h.body hd) fun _ => R.walk R.pop

/-! ## Numbers -/

theorem exprNumber (e : Expr) : J.quiet (ev.exprNumber e) := by
  unfold Evaluator.exprNumber
  split
  · exact h.number e.operand
  · refine R.bind (h.quiet e) fun v => ?_
    split
    · exact R.pure _
    · exact R.throw _

theorem operandNumber : ∀ o : Operand, J.quiet (ev.operandNumber job o)
  | .path p => by
    refine R.bind (R.look job p) fun v => ?_
    split
    · exact R.pure _
    · exact R.throw _
  | .int _ | .float _ => R.pure _
  | .arith op l r => by
    refine R.bind (h.exprNumber R l) fun a => R.bind (h.exprNumber R r) fun b => ?_
    split
    · exact R.ofExcept _
    · exact R.pure _
  | .call c => by
    refine R.bind (h.call R c) fun v => ?_
    split
    · exact R.pure _
    · exact R.throw _
  | .str _ | .bool _ | .concat _ | .test _ _ _ _ | .logic _ _ _ | .within _ _ _ | .macroCall _ _
  | .array _ => R.throw _

/-! ## Truth -/

theorem logicTruth (op : LogicOp) (l r : Expr) : J.quiet (ev.logicTruth op l r) := by
  unfold Evaluator.logicTruth
  split
  case h_1 | h_2 =>
    refine R.bind (h.truth l) fun b => ?_
    split
    all_goals first | exact R.pure _ | exact R.bind (h.truth r) fun _ => R.pure _
  case h_3 | h_4 => exact R.bind (h.quiet l) fun _ => R.bind (h.quiet r) fun _ => R.pure _
  case h_5 =>
    refine R.bind (h.exprNumber R l) fun a => R.bind (h.exprNumber R r) fun b => ?_
    split
    · exact R.pure _
    · exact R.throw _

theorem operandTruth (hj : J.Covers job) (e : Expr) : J.quiet (ev.operandTruth job e) := by
  unfold Evaluator.operandTruth
  generalize e.operand = o
  cases o with
  | logic op l r => exact h.logicTruth R op l r
  | path p =>
    refine R.bind (R.attempt (h.quiet e)) fun r => ?_
    split <;> exact R.pure _
  | arith | int | float =>
    refine R.bind (h.number _) fun n => ?_
    split <;> exact R.pure _
  | within n l r => exact R.bind (h.within R n l r) fun _ => R.pure _
  | test p n name args => exact R.bind (h.test R p n name args) fun _ => R.pure _
  | bool | str | array => exact R.pure _
  | call c =>
    refine R.bind (h.call R c) fun v => ?_
    split
    · exact R.pure _
    · exact R.throw _
  | concat parts =>
    refine R.bind (h.quiet e) fun v => ?_
    split
    · exact R.pure _
    · exact R.throw _
  | macroCall space c => exact R.bind (R.capture (h.callMacro R hj space c)) fun _ => R.pure _

theorem exprTruth (hj : J.Covers job) (e : Expr) : J.quiet (ev.exprTruth job e) := by
  refine R.bind (h.operandTruth R hj e) fun b => ?_
  split <;> exact R.pure _

/-! ## Values -/

theorem partText (escape : Bool) : ∀ o : Operand, J.quiet (ev.partText job escape o)
  | .str _ | .int _ | .float _ => R.pure _
  | .path p => by
    refine R.bind (R.look job p) fun v => ?_
    split
    · exact R.pure _
    · exact R.pure _
    · exact R.throw _
  | .call c => by
    refine R.bind (h.call R c) fun v => ?_
    split
    · exact R.pure _
    · exact R.pure _
    · exact R.throw _
  | .bool _ | .concat _ | .test _ _ _ _ | .logic _ _ _ | .within _ _ _ | .macroCall _ _ | .array _
  | .arith _ _ _ => R.throw _

theorem joinedText : ∀ (escape : Bool) (ps : List Operand), J.quiet (ev.joinedText job escape ps)
  | _, [] => R.pure _
  | escape, p :: ps => by
    refine R.bind (h.partText R escape p) fun s => ?_
    exact R.bind (joinedText s.2 ps) fun rest => R.pure _

theorem itemValues : ∀ es : List Expr, J.quiet (ev.itemValues es)
  | [] => R.pure _
  | e :: es => R.bind (h.quiet e) fun _ => R.bind (itemValues es) fun _ => R.pure _

theorem fallbackValue (cs : List Call) : J.quiet (ev.fallbackValue cs) := by
  unfold Evaluator.fallbackValue
  split
  · exact h.quiet _
  · exact R.throw _

theorem pathValue (e : Expr) (path : String) : J.quiet (ev.pathValue job e path) := by
  have fallback := R.bind (h.fallbackValue R e.filters) fun v => R.pure (some v)
  refine R.get (fun _ _ => rfl) fun st _ => ?_
  split
  · exact fallback
  · exact R.pure _
  · exact fallback
  · split
    · exact R.pure _
    · exact R.throw _

theorem operandValue (hj : J.Covers job) (e : Expr) : J.quiet (ev.operandValue job e) := by
  unfold Evaluator.operandValue
  cases e.operand with
  | array es => exact R.bind (h.itemValues R es) fun _ => R.pure _
  | within n l r => exact R.bind (h.within R n l r) fun _ => R.pure _
  | str | int | float | bool => exact R.pure _
  | concat ps => exact R.bind (h.joinedText R false ps) fun _ => R.pure _
  | path p => exact R.bind (h.pathValue R e p) fun _ => R.pure _
  | call c => exact R.bind (h.call R c) fun _ => R.pure _
  | macroCall space c => exact R.bind (R.capture (h.callMacro R hj space c)) fun _ => R.pure _
  | test p n name args => exact R.bind (h.test R p n name args) fun _ => R.pure _
  | logic => exact R.bind (h.truth e) fun _ => R.pure _
  | arith =>
    refine R.bind (R.wrapping _ (h.number _)) fun n => ?_
    split <;> exact R.pure _

theorem filtered : ∀ (v : Value) (escape : Bool) (cs : List Call),
    J.quiet (ev.filtered job v escape cs)
  | _, _, [] => R.pure _
  | v, escape, c :: cs => by
    unfold Evaluator.filtered
    split
    · exact filtered v escape cs
    · exact R.bind (h.filter R v c) fun w => filtered w true cs

theorem exprValue (hj : J.Covers job) (e : Expr) : J.quiet (ev.exprValue job e) := by
  refine R.bind (h.operandValue R hj e) fun r => ?_
  split
  · exact R.pure _
  refine R.bind (h.filtered R _ _ e.filters) fun (v, escape) => ?_
  dsimp only
  split
  · exact R.pure _
  split
  · refine R.get (fun _ _ => rfl) fun st _ => ?_
    split <;> exact R.pure _
  · exact R.pure _

/-! ## Loops -/

theorem turns (key : Option String) (value : String) {body : List Node} (hb : Every J.tag body) :
    ∀ (index : Nat) (items : List (String × Value)), J.walk (ev.turns key value body index items)
  | _, [] => R.walk (R.pure _)
  | index, (k, v) :: rest => by
    refine R.walk_bind (R.walk (R.onFrame fun _ => rfl)) fun _ => ?_
    refine R.walk_bind (h.body hb) fun _ => ?_
    refine R.walk_get (fun _ _ => rfl) fun st _ => ?_
    split
    · exact R.walk (R.pure _)
    · exact turns key value hb (index + 1) rest

theorem loop (hj : J.Covers job) (key : Option String) (value : String) (e : Expr)
    {body empty : List Node} (hb : Every J.tag body) (hn : Every J.tag empty) :
    J.walk (ev.loop job key value e body empty) := by
  refine R.walk_bind (R.walk (R.ofExcept _)) fun name => ?_
  refine R.walk_bind (R.walk (h.plain R e)) fun v => ?_
  refine R.walk_bind (R.walk (R.ofExcept _)) fun items => ?_
  split
  · exact h.body hn
  · refine R.walk_get (fun _ _ => rfl) fun st hst => ?_
    refine R.walk_bind (R.walk (R.push (hst.active hj))) fun _ => ?_
    exact R.walk_bind (h.turns R key value hb 0 _) fun _ => R.walk R.pop

omit h in
theorem tellLoop (s : Signal) (word : String) : J.quiet (Evaluator.tellLoop s word) := by
  refine R.get (fun _ _ => rfl) fun st _ => ?_
  split
  · exact R.onFrame fun _ => rfl
  · exact R.throw _

/-! ## Blocks -/

theorem enter (mark : BlockMark) {body : List Node} (hb : Every J.tag body) :
    J.walk (do
      modify fun st => { st with blocks := mark :: st.blocks }
      ev.body body) :=
  R.walk_bind (R.walk (R.arrange (f := id) (g := (mark :: ·)) fun _ hfs => hfs)) fun _ => h.body hb

theorem block (hj : J.Covers job) (name : String) {body : List Node} (hb : Every J.tag body) :
    J.walk (ev.block job name body) := by
  refine R.walk_get (fun _ _ => rfl) fun st hst => ?_
  have active := hst.active hj
  dsimp only
  -- the body of the template itself, or of the nearest one below it, or the one that stands here
  cases hl : (job.active st).blocks.lookup name with
  | some own => exact h.enter R _ (active.blocks (name, own) (Sorted.mem_of_lookup hl))
  | none =>
    cases hf : Evaluator.blockBody? job name 1 (job.active st).parents with
    | none => exact h.body hb
    | some found => exact h.enter R _ (hj.blockBody? name 1 hf)

theorem lowerBlock (hj : J.Covers job) : J.walk (ev.lowerBlock job) := by
  refine R.walk_get (fun _ _ => rfl) fun st _ => ?_
  cases st.blocks.head? with
  | none => exact R.walk (R.throw _)
  | some mark =>
    dsimp only
    cases hf : Evaluator.blockBody? job mark.name (mark.level + 1)
        (job.template.parents.drop mark.level) with
    | none => exact R.walk (R.throw _)
    | some found =>
      dsimp only
      refine R.walk_bind (R.walk (R.arrange (f := id) (g := (found.1 :: ·)) fun _ hfs => hfs))
        fun _ => ?_
      refine R.walk_bind (h.body (hj.blockBody? _ _ hf)) fun _ => ?_
      exact R.walk (R.arrange (f := id) fun _ hfs => hfs)

/-! ## Nodes -/

theorem branches {otherwise : List Node} (ho : Every J.tag otherwise) :
    ∀ {bs : List Branch}, (∀ b ∈ bs, Every J.tag b.body) → J.walk (ev.branches otherwise bs)
  | [], _ => h.body ho
  | b :: bs, hbs => by
    refine R.walk_bind (R.walk (h.truth b.condition)) fun t => ?_
    split
    · exact h.body (hbs b (by simp))
    · exact branches ho fun c hc => hbs c (by simp [hc])

end Evaluators

/-- The judgement agrees with the evaluation of expressions and with filters over nodes, too. -/
structure Sound (J : Judgement) (job : Job) : Prop where
  rules : J.Rules
  covers : J.Covers job
  value {ev : Evaluator} : J.Evaluators ev → ∀ e, J.value e (ev.exprValue job e)
  filtered {ev : Evaluator} {o c : Marks} {f : Call} {body : List Node} : J.Evaluators ev →
    J.tag (.filtered o f body c) → Every J.tag body → J.walk (ev.node job (.filtered o f body c))

namespace Sound

variable {job : Job} (S : J.Sound job) {ev : Evaluator} (h : J.Evaluators ev)
include S

include h in
theorem node : ∀ {n : Node}, n.Within J.tag → J.walk (ev.node job n)
  | .text _, hn => S.rules.text hn.self
  | .raw _ _ _, hn => S.rules.raw hn.self
  | .comment _, _ | .importing _ _ _, _ | .define _ _ _ _ _, _ => S.rules.walk (S.rules.pure _)
  | .super, _ => h.lowerBlock S.rules S.covers
  | .extend _ _, _ => S.rules.walk (S.rules.throw _)
  | .output _ e, hn => S.rules.output hn.self (h.quiet e) (h.value e)
  | .set _ name e outer, _ =>
    S.rules.walk (S.rules.bind (h.plain S.rules e) fun v => S.rules.assign name v outer)
  | .inclusion _ names optional, _ => by
    unfold Evaluator.node
    dsimp only
    cases ht : names.findSome? job.template? with
    | none =>
      dsimp only
      split
      · exact S.rules.walk (S.rules.pure _)
      · exact S.rules.walk (S.rules.throw _)
    | some t =>
      obtain ⟨name, -, hname⟩ := List.exists_of_findSome?_eq_some ht
      have good := S.covers.library name t hname
      refine S.rules.walk_bind (S.rules.walk (S.rules.push good)) fun _ => ?_
      exact S.rules.walk_bind (h.body good.nodes) fun _ => S.rules.walk S.rules.pop
  | .block _ name _ _, hn => h.block S.rules S.covers name (Node.within_block.mp hn).2
  | .loop _ key value e _ _ _, hn =>
    have ⟨_, hb, he⟩ := Node.within_loop.mp hn
    h.loop S.rules S.covers key value e hb he
  | .cond _ _ _, hn =>
    have ⟨_, hbs, ho⟩ := Node.within_cond.mp hn
    h.branches S.rules ho hbs
  | .filtered _ _ _ _, hn => S.filtered h hn.self (Node.within_filtered.mp hn).2
  | .stop _, _ | .next _, _ => S.rules.walk (Evaluators.tellLoop S.rules _ _)

include h in
theorem nodes : ∀ {ns : List Node}, Every J.tag ns → J.walk (ev.nodes job ns)
  | [], _ => S.rules.walk (S.rules.pure _)
  | n :: ns, hns => by
    obtain ⟨hn, hns⟩ := every_cons.mp hns
    refine S.rules.walk_bind (S.node h hn) fun _ => ?_
    refine S.rules.walk_get (fun _ _ => rfl) fun st _ => ?_
    split
    · exact nodes hns
    · exact S.rules.walk (S.rules.pure _)

include h in
theorem next : J.Evaluators (ev.next job) where
  body := S.nodes h
  quiet := h.exprValue S.rules S.covers
  value := S.value h
  truth := h.exprTruth S.rules S.covers
  number := h.operandNumber S.rules

theorem level : ∀ n, J.Evaluators (Evaluator.level job n)
  | 0 =>
    { body := fun _ => S.rules.walk (S.rules.throw _)
      quiet := fun _ => S.rules.throw _
      value := S.rules.tooDeep
      truth := fun _ => S.rules.throw _
      number := fun _ => S.rules.throw _ }
  | n + 1 => S.next (level n)

theorem walk (n : Nat) : J.walk ((Evaluator.level job n).body job.root.nodes) :=
  (S.level n).body S.covers.root.nodes

end Sound

end Judgement

end ViewWeave
