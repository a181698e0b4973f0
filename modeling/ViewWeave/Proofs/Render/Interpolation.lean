import ViewWeave.Proofs.Markup.Interpolation
import ViewWeave.Proofs.Render.Writing
import ViewWeave.Proofs.Text.Decoding

/-!
# Texts with values in them

A text with names in it is rendered with the values of the variables in the place of the names, up
to the first name that has no value.
-/

namespace ViewWeave

/-- The text with values in the place of its names, up to the first name without a value, and that
name, if there is one. -/
def Interpolation.filled (value : String → Option String) : Interpolation → String × Option String
  | last s => (s, none)
  | tag s v rest =>
    match value v with
    | none => (s, some v)
    | some x => (s ++ x ++ (rest.filled value).1, (rest.filled value).2)

/-! ## Names -/

/-- A name has neither dots nor brackets, so it is looked up as it is. -/
theorem Markup.PlainName.not_mem {v : List Char} (h : PlainName v) {c : Char}
    (hc : isNameChar c = false) : c ∉ v := by
  intro hm
  simp [List.all_eq_true.mp h.chars c hm] at hc

namespace Job

variable {job : Job} {st : State}

/-- The rendering is in the template itself, and nothing was set. -/
structure AtTop (job : Job) (st : State) : Prop where
  frames : st.frames = [⟨.origin, job.template, [], none⟩]
  blocks : st.blocks = []
  escaping : st.escaping = job.engine.escapes job.template.name

theorem atTop_start (job : Job) : job.AtTop (job.start none) := ⟨rfl, rfl, rfl⟩

theorem lookup_name (top : job.AtTop st) {v : String} (hv : Markup.PlainName v.toList)
    (he : v ≠ everything) :
    job.lookup st v =
      match job.data.get? v with
      | some x => .ok x
      | none => .error (.noVariable v job.template.name) := by
  have dotless : Text.splitOnce? '.' v.toList = none :=
    Text.splitOnce?_eq_none_iff.mpr (hv.not_mem rfl)
  have flat : v.toList.contains '[' = false := by simpa using hv.not_mem (c := '[') rfl
  have framed : Frame.lookup v.toList st.frames = none := by
    rw [top.frames]
    simp [Frame.lookup, Frame.find?, Fields.find?, dotless, Fields.get?, Frame.isClosed]
  have data : job.data.find? v.toList = job.data.get? v := by
    simp [Fields.find?, dotless]
  unfold lookup
  rw [if_neg he]
  dsimp only
  unfold Path.resolve
  rw [flat]
  simp only [framed, Option.none_or, data, Bool.false_eq_true, if_false]
  cases job.data.get? v with
  | some x => rfl
  | none => simp [active, top.frames]

end Job

/-! ## Values of paths -/

section
variable (job : Job) (ev : Evaluator) (p : String) (st : State)

theorem Evaluator.pathValue_plain :
    ev.pathValue job (.plain (.path p)) p st = ((job.lookup st p).map some, st) := by
  have now : (get : Eval State) st = (.ok st, st) := rfl
  unfold pathValue
  rw [Eval.bind_apply, now]
  dsimp only
  cases job.lookup st p with
  | error f => rfl
  | ok v => cases v <;> rfl

theorem Evaluator.operandValue_path : ev.operandValue job (.plain (.path p)) st =
    ((job.lookup st p).map fun v => some (v, p != Job.everything), st) := by
  unfold operandValue
  dsimp only [Expr.plain, Expr.operand]
  rw [Eval.bind_apply, ← Expr.plain, ev.pathValue_plain]
  cases job.lookup st p <;> rfl

def shownAs (escaping : Bool) : Value → Value
  | .str s => .str (if escaping then Html.escape s else s)
  | v => v

theorem Evaluator.exprValue_path : ev.exprValue job (.plain (.path p)) st =
    ((job.lookup st p).map (shownAs (st.escaping && p != Job.everything)), st) := by
  unfold exprValue
  rw [Eval.bind_apply, ev.operandValue_path]
  cases job.lookup st p with
  | error f => rfl
  | ok v =>
    cases v with
    | str s =>
      show (if (st.escaping && p != Job.everything && true) = true then
        (pure (.str (Html.escape s)) : Eval Value) else pure (.str s)) st = _
      rw [Bool.and_true]
      generalize (st.escaping && p != Job.everything) = escape
      cases escape <;> rfl
    | _ => rfl

end

/-! ## Walks -/

def printed (escaping : Bool) : Value → String
  | .str s => if escaping then Html.escape s else s
  | v => v.displayText

theorem displayText_shownAs (escaping : Bool) (v : Value) :
    (shownAs escaping v).displayText = printed escaping v := by
  cases v with
  | str s => exact String.ofList_toList
  | _ => rfl

namespace Job

variable {job : Job} {ev : Evaluator}

def valueOf (job : Job) (name : String) : Option String :=
  (job.data.get? name).map (printed (job.engine.escapes job.template.name))

def endedAt (job : Job) : Option String → Except Fault Unit
  | none => .ok ()
  | some v => .error (.noVariable v job.template.name)

theorem signal_eq_none {st : State} (frames : st.frames = [⟨.origin, job.template, [], none⟩]) :
    Evaluator.signal st = .none := by
  simp [Evaluator.signal, frames]

theorem AtTop.quiet {st : State} (top : job.AtTop st) : Evaluator.signal st = .none :=
  signal_eq_none top.frames

theorem nodes_cons {st st₁ st₂ : State} {n : Node} {ns : List Node} {ps qs : List String}
    {r : Except Fault Unit} (quiet : Evaluator.signal st₁ = .none)
    (hn : (ev.node job n).Writes st ps (.ok ()) st₁) (hns : (ev.nodes job ns).Writes st₁ qs r st₂) :
    (ev.nodes job (n :: ns)).Writes st (ps ++ qs) r st₂ := by
  refine hn.bind (Judgement.writing.get (fun _ _ => rfl) ?_)
  rw [if_pos quiet]
  exact hns

theorem nodes_nil (st : State) : (ev.nodes job []).Writes st [] (.ok ()) st := .silent fun _ => rfl

theorem nodes_text {st st' : State} {ns : List Node} {ps : List String} {r : Except Fault Unit}
    (quiet : Evaluator.signal st = .none) (h : (ev.nodes job ns).Writes st ps r st') (s : String) :
    ∃ qs, (ev.nodes job (Interpolation.textNodes s ++ ns)).Writes st qs r st' ∧
      String.join qs = s ++ String.join ps := by
  unfold Interpolation.textNodes
  split
  · exact ⟨ps, h, by simp [*]⟩
  · have text : (ev.node job (.text s)).Writes st [s] (.ok ()) st := .write s st
    exact ⟨s :: ps, nodes_cons quiet text h, by simp⟩

/-- A tag with a name that has no value fails, and one with a name that has a value prints it. -/
theorem node_name (ev : Evaluator) {st : State} (top : job.AtTop st) {v : String}
    (hv : Markup.PlainName v.toList) (he : v ≠ everything) :
    match job.valueOf v with
    | none => ((ev.next job).node job (.output ⟨false, false⟩ (.plain (.path v)))).Writes st []
        (job.endedAt (some v)) st
    | some s => ∃ st', job.AtTop st' ∧
        ((ev.next job).node job (.output ⟨false, false⟩ (.plain (.path v)))).Writes st [s]
          (.ok ()) st' := by
  have value : ((ev.next job).value (.plain (.path v))).Writes st []
      ((job.lookup st v).map (shownAs (st.escaping && v != everything))) st :=
    .silent fun k => ev.exprValue_path job v { st with out := k }
  rw [bne_iff_ne.mpr he, Bool.and_true, top.escaping, lookup_name top hv he] at value
  unfold valueOf
  cases hx : job.data.get? v with
  | none =>
    rw [hx] at value
    exact value.bind_error
  | some x =>
    rw [hx] at value
    let y := shownAs (job.engine.escapes job.template.name) x
    have noted : (modify fun st => { st with shown := y :: st.shown } : Eval Unit).Writes st []
        (.ok ()) { st with shown := y :: st.shown } := .silent fun _ => rfl
    exact ⟨{ st with shown := y :: st.shown }, ⟨top.frames, top.blocks, top.escaping⟩,
      value.bind (noted.bind (displayText_shownAs _ x ▸ .write y.displayText _))⟩

theorem nodes_filled (ev : Evaluator) {i : Interpolation} (h : i.Plain)
    (he : everything ∉ i.names) :
    ∀ {st : State}, job.AtTop st → ∃ ps st',
      ((ev.next job).nodes job i.nodes).Writes st ps (job.endedAt (i.filled job.valueOf).2) st' ∧
        job.AtTop st' ∧ String.join ps = (i.filled job.valueOf).1 := by
  induction i with
  | last s =>
    intro st top
    obtain ⟨ps, run, joined⟩ := nodes_text top.quiet (nodes_nil st) s
    rw [List.append_nil] at run
    exact ⟨ps, st, run, top, by simpa [Interpolation.filled] using joined⟩
  | tag s v rest ih =>
    intro st top
    obtain ⟨-, hv, hrest⟩ := h
    simp only [Interpolation.names, List.mem_cons, not_or] at he
    have node := node_name ev top hv (Ne.symm he.1)
    cases hx : job.valueOf v with
    | none =>
      rw [hx] at node
      have fill : (Interpolation.tag s v rest).filled job.valueOf = (s, some v) := by
        simp [Interpolation.filled, hx]
      have stop : ((ev.next job).nodes job
          (.output ⟨false, false⟩ (.plain (.path v)) :: rest.nodes)).Writes
          st [] (job.endedAt (some v)) st := node.bind_error
      obtain ⟨ps, run, joined⟩ := nodes_text top.quiet stop s
      rw [fill]
      exact ⟨ps, st, run, top, by simpa using joined⟩
    | some x =>
      rw [hx] at node
      obtain ⟨st₁, top₁, run₁⟩ := node
      obtain ⟨ps, st', run, top', joined⟩ := ih hrest he.2 top₁
      have fill : (Interpolation.tag s v rest).filled job.valueOf =
          (s ++ x ++ (rest.filled job.valueOf).1, (rest.filled job.valueOf).2) := by
        simp [Interpolation.filled, hx]
      obtain ⟨qs, all, all_joined⟩ := nodes_text top.quiet (nodes_cons top₁.quiet run₁ run) s
      rw [fill]
      exact ⟨qs, st', all, top', by simp [all_joined, joined, String.append_assoc]⟩

def faultAt (st : State) : Except Fault Unit → Option (Site × Fault)
  | .ok () => none
  | .error f => some (st.site, f)

theorem runInto_of_writes {n : Nat} {ps : List String} {r : Except Fault Unit} {st : State}
    (run : ((Evaluator.level job n).body job.root.nodes).Writes (job.start none) ps r st) :
    (job.runInto none n).bytes = Text.utf8 (String.join ps) ∧
    (job.runInto none n).called = st.called.reverse ∧
      (job.runInto none n).fault = faultAt st r := by
  have walked := run.taken (.ofRoom none) (by rw [Sink.writeAll_of_free ps rfl])
  rw [Sink.writeAll_of_free ps rfl] at walked
  have start : { job.start none with out := .ofRoom none } = job.start none := rfl
  have bytes : Sink.bytes ⟨ps.reverse ++ [], none, []⟩ = Text.utf8 (String.join ps) := by
    rw [Text.utf8_join]
    simp [Sink.bytes]
  unfold runInto
  rw [← start, walked]
  cases r <;> exact ⟨bytes, rfl, rfl⟩

/-- **Filling.** The rendering of a text with plain names writes it with the values in the place of
the names, up to the first one without a value, with which it fails. -/
theorem runInto_filled {i : Interpolation} (h : i.Plain) (he : everything ∉ i.names)
    (template : job.template = i.template job.template.name) (n : Nat) :
    (job.runInto none (n + 2)).bytes = Text.utf8 (i.filled job.valueOf).1 ∧
      (job.runInto none (n + 2)).fault = (i.filled job.valueOf).2.map fun v =>
        (⟨none, none⟩, .noVariable v job.template.name) := by
  have root : job.root.nodes = i.nodes := by
    unfold root
    rw [template]
    rfl
  obtain ⟨ps, st', run, top, joined⟩ := nodes_filled (.level job n) h he (atTop_start job)
  have level : (Evaluator.level job (n + 2)).body job.root.nodes =
    ((Evaluator.level job n).next job).nodes job job.root.nodes := rfl
  rw [← root, ← level] at run
  obtain ⟨bytes, -, fault⟩ := runInto_of_writes run
  have site : st'.site = ⟨none, none⟩ := by simp [State.site, top.frames, top.blocks]
  rw [bytes, joined, fault]
  cases (i.filled job.valueOf).2 with
  | none => exact ⟨rfl, rfl⟩
  | some v =>
    exact ⟨rfl, congrArg (fun site => some (site, Fault.noVariable v job.template.name)) site⟩

end Job

end ViewWeave
