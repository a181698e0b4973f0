import ViewWeave.Proofs.Markup.CallSlot
import ViewWeave.Proofs.Render.Interpolation

/-!
# Calls in their slots

The rendering of a text around one call writes the texts and, between them, the result of the
function. Where a block below is asked for instead, there is none, and the rendering ends there.
-/

namespace ViewWeave

open Interpolation Markup

def Helper.prints (h : Helper) (escaping : Bool) (s : String) : String :=
  if escaping && !h.safe then Html.escape s else s

namespace Job

variable {job : Job} {st st' : State}

/-! ## Calls -/

/-- The state after a call whose result was put out. -/
def afterCall (st : State) (f text : String) : State :=
  { st with called := f :: st.called, shown := .str text :: st.shown }

/-- A registered helper is what templates call, also if the name is one that is always bound. -/
theorem function?_of_helper {f : String} {h : Helper} (bound : job.engine.helper? f = some h)
    (moment : Nat) : job.function? moment f = some h := by
  unfold function?
  rw [bound]
  rfl

section
variable {f : String} {h : Helper} {s : String} (bound : job.engine.helper? f = some h)
  (result : h.call [] = .ok (.str s))
include bound result

theorem call_apply (ev : Evaluator) (st : State) :
    ev.call job (.mk f []) st = (.ok (.str s, h.safe), { st with called := f :: st.called }) := by
  let noted : State := { st with called := f :: st.called }
  have note : Eval.note f st = (.ok st.called.length, noted) := rfl
  have args : ev.argValues (.inFunction f) [] noted = (.ok [], noted) := rfl
  unfold Evaluator.call
  dsimp only [Call.name, Call.args]
  rw [Eval.bind_apply, note]
  dsimp only
  rw [function?_of_helper bound]
  dsimp only
  rw [Eval.bind_apply, args]
  dsimp only
  rw [result]
  rfl

theorem exprValue_call (ev : Evaluator) (st : State) :
    ev.exprValue job (.plain (.call (.mk f []))) st =
      (.ok (.str (h.prints st.escaping s)), { st with called := f :: st.called }) := by
  have operand : ev.operandValue job (.plain (.call (.mk f []))) st =
      (.ok (some (.str s, !h.safe)), { st with called := f :: st.called }) := by
    unfold Evaluator.operandValue
    dsimp only [Expr.plain, Expr.operand]
    rw [Eval.bind_apply, call_apply bound result]
    rfl
  unfold Evaluator.exprValue
  rw [Eval.bind_apply, operand]
  show (if (st.escaping && !h.safe && true) = true then
        (pure (.str (Html.escape s)) : Eval Value)
      else pure (.str s)) { st with called := f :: st.called } = _
  unfold Helper.prints
  rw [Bool.and_true]
  split <;> rfl

theorem node_call (ev : Evaluator) (st : State) : ((ev.next job).node job
    (.output ⟨false, false⟩ (.plain (.call (.mk f []))))).Writes st [h.prints st.escaping s]
    (.ok ())
      (afterCall st f (h.prints st.escaping s)) := by
  let text := h.prints st.escaping s
  have value : ((ev.next job).value (.plain (.call (.mk f [])))).Writes st [] (.ok (.str text))
      { st with called := f :: st.called } :=
    .silent fun k => exprValue_call bound result ev { st with out := k }
  have noted : (modify fun u => { u with shown := .str text :: u.shown } : Eval Unit).Writes
      { st with called := f :: st.called } [] (.ok ()) (afterCall st f text) := .silent fun _ => rfl
  have written : (Eval.write (Value.str text).displayText).Writes
      (afterCall st f text) [text] (.ok ()) (afterCall st f text) := by
    rw [show (Value.str text).displayText = text from String.ofList_toList]
    exact .write _ _
  exact value.bind (noted.bind written)

end

/-! ## Texts around a node -/

section
variable {ev : Evaluator} {n : Node} {ps : List String} (quiet : Evaluator.signal st = .none)
include quiet

/-- What a node between two texts writes stands between them. -/
theorem nodes_around (after : Evaluator.signal st' = .none)
    (node : (ev.node job n).Writes st ps (.ok ()) st') (front back : String) :
    ∃ qs, (ev.nodes job (textNodes front ++ n :: textNodes back)).Writes st qs (.ok ()) st' ∧
      String.join qs = front ++ String.join ps ++ back := by
  have done : (ev.nodes job []).Writes st' [] (.ok ()) st' := nodes_nil st'
  obtain ⟨rest, run, joined⟩ := nodes_text after done back
  rw [List.append_nil] at run
  obtain ⟨qs, all, all_joined⟩ := nodes_text quiet (nodes_cons after node run) front
  exact ⟨qs, all, by simp [all_joined, joined, String.append_assoc]⟩

theorem nodes_until {e : Fault} (node : (ev.node job n).Writes st ps (.error e) st')
    (front : String) (ns : List Node) :
    ∃ qs, (ev.nodes job (textNodes front ++ n :: ns)).Writes st qs (.error e) st' ∧
      String.join qs = front ++ String.join ps := by
  have stop : (ev.nodes job (n :: ns)).Writes st ps (.error e) st' := node.bind_error
  exact nodes_text quiet stop front

end

/-! ## Blocks -/

def inBlock (job : Job) (name : String) (st : State) : State :=
  { st with blocks := ⟨name, job.template.name, 0⟩ :: st.blocks }

theorem block_writes (ev : Evaluator) (top : job.AtTop st) {name : String} {body : List Node}
    {ps : List String} {r : Except Fault Unit} (own : job.template.blocks.lookup name = some body)
    (run : (ev.body body).Writes (job.inBlock name st) ps r st') :
    (ev.block job name body).Writes st ps r st' := by
  have active : job.active st = job.template := by simp [Job.active, top.frames]
  unfold Evaluator.block
  refine Judgement.writing.get (fun _ _ => rfl) ?_
  dsimp only
  rw [active, own]
  have entered :
      (modify fun st => { st with blocks := ⟨name, job.template.name, 0⟩ :: st.blocks } :
        Eval Unit).Writes st [] (.ok ()) (job.inBlock name st) := .silent fun _ => rfl
  exact entered.bind run

theorem lowerBlock_writes (ev : Evaluator) (alone : job.template.parents = []) (name : String) :
    (ev.lowerBlock job).Writes (job.inBlock name st) [] (.error .noLowerBlock)
    (job.inBlock name st) := by
  unfold Evaluator.lowerBlock
  refine Judgement.writing.get (fun _ _ => rfl) ?_
  dsimp only [inBlock, List.head?]
  rw [alone]
  exact .silent fun _ => rfl

/-! ## Slots -/

section
variable {p : Slot} {n : Node} (template : job.template = p.template n job.template.name)
include template

theorem parents_of_slot : job.template.parents = [] := by
  rw [template]
  rfl

theorem root_of_slot : job.root.nodes = p.nodes n := by
  have root : job.root = job.template := by
    unfold Job.root
    rw [parents_of_slot template]
    rfl
  rw [root, template]
  rfl

end

theorem slot_call {p : Slot} {f : String}
    (template : job.template = p.template (callNode f.toList) job.template.name)
    {h : Helper} {s : String} (bound : job.engine.helper? f = some h)
    (result : h.call [] = .ok (.str s)) (ev : Evaluator) (top : job.AtTop st) : ∃ ps st',
      ((((ev.next job).next job).next job).body (p.nodes (callNode f.toList))).Writes st ps
      (.ok ()) st' ∧
        String.join ps = p.filled (h.prints st.escaping s) ∧ st'.called = f :: st.called := by
  have call : callNode f.toList = .output ⟨false, false⟩ (.plain (.call (.mk f []))) := by
    unfold callNode
    rw [String.ofList_toList]
  have quiet (u : State) (same : u.frames = st.frames) : Evaluator.signal u = .none :=
    signal_eq_none (same.trans top.frames)
  rw [call] at template ⊢
  cases p with
  | top before after =>
    obtain ⟨ps, run, joined⟩ :=
      nodes_around (quiet st rfl) (quiet (afterCall st f (h.prints st.escaping s)) rfl)
      (node_call bound result (ev.next job) st) before after
    exact ⟨ps, _, run, by simpa [Slot.filled, Slot.lead] using joined, rfl⟩
  | block before name front back after =>
    let st₁ := job.inBlock name st
    obtain ⟨ps, inside, inner⟩ :=
      nodes_around (quiet st₁ rfl) (quiet (afterCall st₁ f (h.prints st.escaping s)) rfl)
      (node_call bound result ev st₁) front back
    have same : st₁.escaping = st.escaping := rfl
    rw [same] at inner
    have own : job.template.blocks.lookup name = some (textNodes front ++
        .output ⟨false, false⟩ (.plain (.call (.mk f []))) :: textNodes back) := by
      rw [template]
      exact List.lookup_cons_self
    have block := block_writes ((ev.next job).next job) top own inside
    obtain ⟨qs, run, joined⟩ := nodes_around (n := .block _ name _ _) (quiet st rfl)
      (quiet (afterCall st₁ f (h.prints st.escaping s)) rfl) block before after
    exact ⟨qs, _, run,
      by simpa [Slot.filled, Slot.lead, inner, String.append_assoc] using joined, rfl⟩

/-- Where a block below is asked for, the text is written up to there. -/
theorem slot_super {p : Slot} (block : p.InBlock)
    (template : job.template = p.template .super job.template.name)
    (ev : Evaluator) (top : job.AtTop st) :
    ∃ ps name,
      ((((ev.next job).next job).next job).body (p.nodes .super)).Writes st ps
        (.error .noLowerBlock) (job.inBlock name st) ∧
        String.join ps = p.lead ∧ (job.template.blocks.lookup name).isSome := by
  have quiet (u : State) (same : u.frames = st.frames) : Evaluator.signal u = .none :=
    signal_eq_none (same.trans top.frames)
  cases p with
  | top _ _ => cases block
  | block before name front back after =>
    have lower : ((ev.next job).node job .super).Writes (job.inBlock name st) []
        (.error .noLowerBlock) (job.inBlock name st) :=
      lowerBlock_writes (ev.next job) (parents_of_slot template) name
    obtain ⟨ps, inside, inner⟩ :=
      nodes_until (quiet (job.inBlock name st) rfl) lower front (textNodes back)
    have own : job.template.blocks.lookup name =
        some (textNodes front ++ .super :: textNodes back) := by
      rw [template]
      exact List.lookup_cons_self
    have block := block_writes ((ev.next job).next job) top own inside
    obtain ⟨qs, run, joined⟩ :=
      nodes_until (n := .block _ name _ _) (quiet st rfl) block before (textNodes after)
    exact ⟨qs, name, run, by simpa [Slot.lead, inner] using joined, Option.isSome_of_eq_some own⟩

/-! ## Renderings -/

theorem tell_inBlock (alone : job.template.parents = []) (top : job.AtTop st) {name : String}
    (own : (job.template.blocks.lookup name).isSome) :
    job.tell (job.inBlock name st).site = s!"Failed to render '{job.template.name}'" := by
  have site : (job.inBlock name st).site = ⟨none, some ⟨name, job.template.name, 0⟩⟩ := by
    simp [State.site, inBlock, top.frames]
  have writers : job.writersOf name = [job.template.name] := by
    simp [writersOf, own, alone]
  rw [site]
  unfold tell
  simp only [writers, List.getElem?_cons_zero, if_true]
  rfl

section
variable {p : Slot} (n : Nat)

theorem runInto_call {f : String}
    (template : job.template = p.template (callNode f.toList) job.template.name)
    {h : Helper} {s : String} (bound : job.engine.helper? f = some h)
    (result : h.call [] = .ok (.str s)) :
    (job.runInto none (n + 3)).bytes =
        Text.utf8 (p.filled (h.prints (job.engine.escapes job.template.name) s)) ∧
      (job.runInto none (n + 3)).called = [f] ∧ (job.runInto none (n + 3)).fault = none := by
  obtain ⟨ps, st', run, joined, called⟩ :=
    slot_call template bound result (.level job n) (atTop_start job)
  rw [← root_of_slot template] at run
  obtain ⟨bytes, calls, fault⟩ := runInto_of_writes (n := n + 3) run
  exact ⟨bytes.trans (by rw [joined]; rfl), calls.trans (by rw [called]; rfl), fault⟩

theorem runInto_super (block : p.InBlock)
    (template : job.template = p.template .super job.template.name) :
    (job.runInto none (n + 3)).bytes = Text.utf8 p.lead ∧ (job.runInto none (n + 3)).called = [] ∧
      ∃ site, (job.runInto none (n + 3)).fault = some (site, .noLowerBlock) ∧
        job.tell site = s!"Failed to render '{job.template.name}'" := by
  obtain ⟨ps, name, run, joined, own⟩ := slot_super block template (.level job n) (atTop_start job)
  rw [← root_of_slot template] at run
  obtain ⟨bytes, calls, fault⟩ := runInto_of_writes (n := n + 3) run
  exact ⟨bytes.trans (by rw [joined]), calls, _, fault,
    tell_inBlock (parents_of_slot template) (atTop_start job) own⟩

end

end Job

end ViewWeave
