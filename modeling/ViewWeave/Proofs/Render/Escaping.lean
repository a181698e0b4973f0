import ViewWeave.Proofs.Markup.Yield
import ViewWeave.Proofs.Render.Guard
import ViewWeave.Proofs.Render.Judgement
import ViewWeave.Proofs.Text.Decoding

/-!
# Escaped renderings

A rendering with escaping writes no markup, if its templates have none, all that they put out is
guarded, and no array was put out that is printed with markup.
-/

namespace ViewWeave

open Text

/-- The node writes no markup of its own, and puts out only what is guarded. -/
def Node.Safe (n : Node) : Prop := n.Lacks '<' ∧ n.isGuarded

/-- All of these values are no arrays that are printed with markup. -/
def Tame (vs : List Value) : Prop := ∀ v ∈ vs, v.isTame

structure Sink.Clean (k : Sink) : Prop where
  free : k.room = none
  whole : k.torn = []
  pieces : ∀ s ∈ k.pieces, Mute s.toList

theorem Sink.clean_ofRoom : (Sink.ofRoom none).Clean := ⟨rfl, rfl, by simp [ofRoom]⟩

theorem Sink.Clean.write {k : Sink} (h : k.Clean) {s : String} (hs : Mute s.toList) :
    (k.write s).1.Clean := by
  unfold Sink.write
  rw [h.free]
  exact ⟨rfl, h.whole, by simpa using ⟨hs, h.pieces⟩⟩

theorem Sink.Clean.text {k : Sink} (h : k.Clean) : Mute k.text.toList := by
  unfold Sink.text
  rw [String.toList_join]
  intro hm
  obtain ⟨s, hs, hc⟩ := List.mem_flatMap.mp hm
  exact h.pieces s (List.mem_reverse.mp hs) hc

theorem Sink.Clean.bytes {k : Sink} (h : k.Clean) : k.bytes = Text.utf8 k.text := by
  unfold Sink.bytes Sink.text
  rw [h.whole, List.append_nil, utf8_join]

/-! ## Steps with escaping -/

def State.Safe (st : State) : Prop := ∀ f ∈ st.frames, f.template.Every Node.Safe

/-- What a step leaves of the state before it: it escapes as before, is in safe templates, and
forgets nothing that was put out. -/
structure State.Leads (s t : State) : Prop where
  escaping : t.escaping = s.escaping
  safe : t.Safe
  shown : s.shown <:+ t.shown

theorem State.Leads.trans {s t u : State} (h : s.Leads t) (h' : t.Leads u) : s.Leads u :=
  ⟨h'.escaping.trans h.escaping, h'.safe, h.shown.trans h'.shown⟩

theorem State.Leads.tame {s t : State} (h : s.Leads t) (ht : Tame t.shown) : Tame s.shown :=
  fun v hv => ht v (h.shown.subset hv)

namespace Eval

variable {α β : Type} {P : α → Prop}

def Steady (m : Eval α) : Prop := ∀ st : State, st.Safe → st.Leads (m st).2

/-- The results of the step satisfy `P` with escaping, in safe templates, and unless an array was
put out with markup. -/
def GivesEscaped (P : α → Prop) (m : Eval α) : Prop :=
  ∀ (st : State) a st', st.Safe → st.escaping → m st = (.ok a, st') → Tame st'.shown → P a

theorem Steady.bind {m : Eval α} {k : α → Eval β} (hm : m.Steady) (hk : ∀ a, (k a).Steady) :
    (m >>= k).Steady := by
  intro st safe
  have first := hm st safe
  rw [bind_apply]
  generalize m st = r at first
  obtain ⟨e | a, st₁⟩ := r
  · exact first
  · exact first.trans (hk a st₁ first.safe)

theorem Steady.of_ok {m : Eval α} (h : m.Steady) {st st' : State} {a : α} (safe : st.Safe)
    (run : m st = (.ok a, st')) : st.Leads st' := by
  have leads := h st safe
  rwa [run] at leads

theorem steady_write (s : String) : (write s).Steady :=
  fun _ safe => ⟨rfl, safe, List.suffix_refl _⟩

theorem steady_putOut (v : Value) : (putOut v).Steady :=
  fun _ safe => ⟨rfl, safe, List.suffix_cons _ _⟩

end Eval

/-! ## The judgement -/

def Judgement.escaping : Judgement where
  tag := Node.Safe
  quiet m := m.Steady ∧ ∀ st : State, st.Safe → (m st).2.out = st.out
  walk m := m.Steady ∧ ∀ st : State, st.Safe → st.escaping → Tame (m st).2.shown → st.out.Clean →
    (m st).2.out.Clean
  value e m := (e.isMute → m.Gives fun v => Mute v.display) ∧
    (e.isGuarded → m.GivesEscaped fun v => v.isTame → Mute v.display)

namespace Judgement.escaping

variable {α β : Type} {P : α → Prop}

theorem quiet_of {m : Eval α} {f : State → Except Fault α} (h : ∀ st, m st = (f st, st)) :
    escaping.quiet m := by
  refine ⟨fun st safe => ?_, fun st _ => ?_⟩
  all_goals rw [h]
  exact ⟨rfl, safe, List.suffix_refl _⟩

theorem walk_of_quiet {m : Eval α} (h : escaping.quiet m) : escaping.walk m :=
  ⟨h.1, fun st safe _ _ clean => (h.2 st safe).symm ▸ clean⟩

theorem quiet_bind {m : Eval α} {k : α → Eval β} (hm : escaping.quiet m)
    (hk : ∀ a, escaping.quiet (k a)) :
    escaping.quiet (m >>= k) := by
  refine ⟨hm.1.bind fun a => (hk a).1, fun st safe => ?_⟩
  have first := hm.1 st safe
  have out := hm.2 st safe
  rw [Eval.bind_apply]
  generalize m st = r at first out
  obtain ⟨e | a, st₁⟩ := r
  · exact out
  · exact ((hk a).2 st₁ first.safe).trans out

/-- What follows a step may rely on what its results satisfy. -/
theorem walk_bind_of {m : Eval α} {k : α → Eval β} (hm : escaping.walk m) (given : m.GivesEscaped P)
    (steady : ∀ a, (k a).Steady) (hk : ∀ a, P a → escaping.walk (k a)) :
    escaping.walk (m >>= k) := by
  refine ⟨hm.1.bind steady, fun st safe on tame clean => ?_⟩
  have first := hm.1 st safe
  have kept := hm.2 st safe on
  have result := given st
  rw [Eval.bind_apply] at tame ⊢
  generalize m st = r at first kept result tame
  obtain ⟨e | a, st₁⟩ := r
  · exact kept tame clean
  · -- what was put out by the end was not less in between, so the first step may count on it, too
    have before := (steady a st₁ first.safe).tame tame
    have holds : P a := result a st₁ safe on rfl before
    exact (hk a holds).2 st₁ first.safe (first.escaping.trans on) tame (kept before clean)

theorem walk_bind {m : Eval α} {k : α → Eval β} (hm : escaping.walk m)
    (hk : ∀ a, escaping.walk (k a)) :
    escaping.walk (m >>= k) :=
  walk_bind_of (P := fun _ => True) hm (fun _ _ _ _ _ _ _ => trivial) (fun a => (hk a).1) fun a _ =>
    hk a

theorem walk_write {s : String} (hs : Mute s.toList) : escaping.walk (Eval.write s) :=
  ⟨Eval.steady_write s, fun _ _ _ _ clean => clean.write hs⟩

theorem walk_putOut {v : Value} (hv : v.isTame → Mute v.display) :
    escaping.walk (Eval.putOut v) := by
  refine ⟨Eval.steady_putOut v, fun st _ _ tame clean => ?_⟩
  have mute : Mute v.display := hv (tame v (List.mem_cons_self ..))
  exact clean.write (Value.mute_displayText.mpr mute)

theorem gives_capture {m : Eval Unit} (h : escaping.walk m) :
    (Eval.capture m).GivesEscaped fun s => Mute s.toList := by
  intro st s st' safe on hs tame
  have kept := h.2 { st with out := .ofRoom none } safe on
  unfold Eval.capture at hs
  generalize m { st with out := .ofRoom none } = r at kept hs
  obtain ⟨e | u, st₁⟩ := r
  · cases hs
  · cases hs
    exact (kept tame Sink.clean_ofRoom).text

theorem rules : escaping.Rules where
  pure a := quiet_of (f := fun _ => .ok a) fun _ => rfl
  throw e := quiet_of (f := fun _ => .error e) fun _ => rfl
  bind := quiet_bind
  get _ h := ⟨fun st safe => (h st safe).1 st safe, fun st safe => (h st safe).2 st safe⟩
  note f := ⟨fun _ safe => ⟨rfl, safe, List.suffix_refl _⟩, fun _ _ => rfl⟩
  arrange h := ⟨fun _ safe => ⟨rfl, h _ safe, List.suffix_refl _⟩, fun _ _ => rfl⟩
  capture {m} h := by
    refine ⟨fun st safe => ?_, fun st _ => ?_⟩
    · have leads := h.1 { st with out := .ofRoom none } safe
      unfold Eval.capture
      generalize m { st with out := .ofRoom none } = r at leads
      obtain ⟨e | u, st₁⟩ := r <;> exact ⟨leads.escaping, leads.safe, leads.shown⟩
    · unfold Eval.capture
      rcases m { st with out := .ofRoom none } with ⟨e | u, st₁⟩ <;> rfl
  verbatim h := by
    refine ⟨fun st safe => ?_, fun st safe => h.2 { st with escaping := false } safe⟩
    have leads := h.1 { st with escaping := false } safe
    exact ⟨rfl, leads.safe, leads.shown⟩
  attempt h := h
  wrapping _ _ h := h
  walk := walk_of_quiet
  walk_bind := walk_bind
  walk_get _ h := ⟨fun st safe => (h st safe).1 st safe, fun st safe => (h st safe).2 st safe⟩
  text h := walk_write h.1
  raw h := walk_write h.1
  output h hm hv := walk_bind_of (walk_of_quiet hm) (hv.2 h.2) Eval.steady_putOut fun _ =>
    walk_putOut
  tooDeep _ := ⟨fun _ => Eval.gives_throw _, fun _ _ _ _ _ _ h => by cases h⟩

end Judgement.escaping

/-! ## Values -/

namespace Evaluator

variable {job : Job} {ev : Evaluator}

/-- The value of an expression has no markup, or it is what the filters left, which is no text that
would have been escaped, without a `not` before it. -/
theorem exprValue_eq_ok {e : Expr} {st st' : State} {w : Value}
    (run : ev.exprValue job e st = (.ok w, st')) :
    Mute w.display ∨ ∃ v escape st₁ flag, ev.operandValue job e st = (.ok (some (v, escape)), st₁) ∧
      ev.filtered job v escape e.filters st₁ = (.ok (w, flag), st') ∧ e.negated = false ∧
        ∀ s, w = .str s → ¬(st'.escaping && flag && !isMarkedSafe e) := by
  unfold exprValue at run
  obtain ⟨r, st₁, operand, run⟩ := Eval.bind_eq_ok.mp run
  cases r with
  | none =>
    cases run
    exact .inl (mute_boolText true)
  | some r =>
    obtain ⟨v, escape⟩ := r
    obtain ⟨⟨u, flag⟩, st₂, filters, run⟩ := Eval.bind_eq_ok.mp run
    dsimp only at run
    split at run
    · cases run
      exact .inl (mute_boolText _)
    · rename_i positive
      rw [Bool.not_eq_true] at positive
      cases u with
      | str s =>
        obtain ⟨st₃, st₄, got, run⟩ := Eval.bind_eq_ok.mp run
        cases got
        split at run
        · cases run
          exact .inl (Html.lt_not_mem_escape s)
        · rename_i plain
          cases run
          exact .inr ⟨v, escape, st₁, flag, operand, filters, positive, fun _ _ => plain⟩
      | _ =>
        cases run
        exact .inr ⟨v, escape, st₁, flag, operand, filters, positive, nofun⟩

theorem operandValue_literal {e : Expr} (literal : e.operand.isMute) {st st' : State} {v : Value}
    {escape : Bool}
    (run : ev.operandValue job e st = (.ok (some (v, escape)), st')) : Mute v.display := by
  unfold operandValue at run
  generalize e.operand = o at run literal
  cases o with
  | str s =>
    cases run
    exact of_decide_eq_true literal
  | int i =>
    cases run
    exact Value.mute_display_ofInt i
  | float x =>
    cases run
    exact Value.mute_display_ofFloat x
  | bool b =>
    cases run
    exact mute_boolText b
  | _ => cases literal

theorem exprValue_mute {e : Expr} (he : e.isMute) :
    (ev.exprValue job e).Gives fun v => Mute v.display := by
  simp only [Expr.isMute, Bool.and_eq_true, List.isEmpty_iff] at he
  intro st w st' run
  rcases exprValue_eq_ok run with mute | ⟨v, escape, st₁, flag, operand, filters, -, -⟩
  · exact mute
  · rw [he.1] at filters
    cases filters
    exact operandValue_literal he.2 operand

section
variable (hf : job.engine.EscapesCalls) (hj : Judgement.escaping.Covers job)
  (h : Judgement.escaping.Evaluators ev)
include hf hj h

/-- The value of a guarded operand is escaped later, or has no text of the data. -/
theorem operandValue_guarded {e : Expr} (he : e.operand.isGuarded) :
    (ev.operandValue job e).GivesEscaped
    fun r => ∀ (v : Value) (escape : Bool), r = some (v, escape) →
      escape ∨ (v.isTame → Mute v.display) := by
  rintro st _ st' safe on run tame v escape rfl
  by_cases literal : e.operand.isMute
  · exact .inr fun _ => operandValue_literal literal run
  unfold operandValue at run
  generalize e.operand = o at run he literal
  cases o with
  | str s =>
    cases run
    exact .inl rfl
  | int _ | float _ | bool _ => exact absurd rfl literal
  | array es =>
    obtain ⟨vs, st₁, -, run⟩ := Eval.bind_eq_ok.mp run
    cases run
    exact .inr fun shown => Value.mute_of_isTame shown nofun
  | within _ _ _ | test _ _ _ _ | logic _ _ _ =>
    obtain ⟨b, st₁, -, run⟩ := Eval.bind_eq_ok.mp run
    cases run
    exact .inr fun _ => mute_boolText b
  | arith op l r =>
    obtain ⟨n, st₁, -, run⟩ := Eval.bind_eq_ok.mp run
    cases n with
    | some n =>
      cases run
      exact .inr fun _ => mute_display n
    | none =>
      cases run
      exact .inr fun _ => by decide
  | path p =>
    obtain ⟨r, st₁, -, run⟩ := Eval.bind_eq_ok.mp run
    cases r with
    | none => cases run
    | some r =>
      cases run
      exact .inl he
  | call c =>
    obtain ⟨⟨r, s⟩, st₁, called, run⟩ := Eval.bind_eq_ok.mp run
    have checked := gives_call hf c st _ st₁ called
    cases run
    exact .inl (by simpa using checked)
  | macroCall space c =>
    obtain ⟨s, st₁, kept, run⟩ := Eval.bind_eq_ok.mp run
    cases run
    -- the text of a macro is put out as it is: it was escaped while the macro was walked through
    have walk := h.callMacro Judgement.escaping.rules hj space c
    exact .inr fun _ => Judgement.escaping.gives_capture walk st s _ safe on kept tame
  | concat ps =>
    obtain ⟨⟨s, flag⟩, st₁, joined, run⟩ := Eval.bind_eq_ok.mp run
    obtain ⟨turned, mute⟩ := gives_joinedText hf false ps st _ st₁ joined
    cases run
    rcases Bool.or_eq_true_iff.mp he with call | literals
    · exact .inl (turned (.inr call))
    · exact .inr fun _ => Value.mute_display_ofList (mute literals)

theorem exprValue_guarded {e : Expr} (he : e.isGuarded) :
    (ev.exprValue job e).GivesEscaped fun w => w.isTame → Mute w.display := by
  intro st w st' safe on run tame shown
  rcases exprValue_eq_ok run with mute | ⟨v, escape, st₁, flag, operand, filters, positive, plain⟩
  · exact mute
  · have first := (h.operandValue Judgement.escaping.rules hj e).1.of_ok safe operand
    have rest := (h.filtered Judgement.escaping.rules v escape e.filters).1.of_ok first.safe filters
    have still : st'.escaping := (first.trans rest).escaping.trans on
    simp only [Expr.isGuarded, positive, Bool.false_or, Bool.and_eq_true, Bool.not_eq_true',
      Bool.or_eq_true] at he
    obtain ⟨unmarked, guarded⟩ := he
    obtain ⟨turned, kept⟩ := gives_filtered v escape e.filters st₁ _ st' filters
    -- without the flag there was no filter, and the value is that of the operand
    cases flag with
    | true => exact Value.mute_of_isTame shown fun s hs => plain s hs (by simp [still, unmarked])
    | false =>
      have none : ¬e.filters.any Call.isFilter := fun some => absurd (turned (.inr some)) (by simp)
      have given := operandValue_guarded hf hj h
        (guarded.resolve_left none) st _ st₁ safe on operand
        (rest.tame tame) v escape rfl
      cases kept none
      exact given.resolve_left (by simp) shown

end

end Evaluator

/-! ## Nodes -/

namespace Judgement.escaping

theorem walk_filtered {job : Job} {ev : Evaluator} (h : escaping.Evaluators ev)
    (around : job.around.KeepMute) {o c : Marks} {f : Call} {body : List Node} (hf : f.isGuarded)
    (hb : Every Node.Safe body) :
    escaping.walk (ev.node job (.filtered o f body c)) := by
  have kept := h.body hb
  have filter (s : String) : escaping.quiet (ev.filter job (.str s) f) := h.filter rules (.str s) f
  refine walk_bind_of (walk_of_quiet (rules.capture kept)) (gives_capture kept)
    (fun s => ?_) fun s hs => ?_
  · split
    · exact Eval.steady_write s
    · exact (filter s).1.bind fun v => Eval.steady_write _
  · split
    · exact walk_write hs
    · have given := Evaluator.gives_filter (fun e he => (h.value e).1 he) around hs hf
      refine walk_bind_of (walk_of_quiet (filter s)) (fun st v st' _ _ run _ => given st v st' run)
        (fun v => Eval.steady_write _) fun v hv => ?_
      exact walk_write (Value.mute_displayText.mpr hv)

theorem sound {job : Job} (hf : job.engine.EscapesCalls) (around : job.around.KeepMute)
    (hj : escaping.Covers job) : escaping.Sound job where
  rules := rules
  covers := hj
  value h _ := ⟨Evaluator.exprValue_mute, Evaluator.exprValue_guarded hf hj h⟩
  filtered h hn hb := walk_filtered h around hn.2 hb

end Judgement.escaping

/-! ## Whole renderings -/

/-- **Escaping.** What an escaped rendering writes has no markup, even if it fails. -/
theorem Job.runTo_mute {job : Job} (hf : job.engine.EscapesCalls) (around : job.around.KeepMute)
    (hj : Judgement.escaping.Covers job) (on : job.engine.escapes job.template.name) (n : Nat)
    (tame : Tame (job.runTo n).shown) : (job.runTo n).out.Clean := by
  have walk := (Judgement.escaping.sound hf around hj).walk n
  have clean := walk.2 (job.start none) (hj.start none) on
  unfold Job.runTo Job.runInto at tame ⊢
  generalize (Evaluator.level job n).body job.root.nodes (job.start none) = r at clean tame
  obtain ⟨e | u, st⟩ := r
  all_goals exact clean (fun v hv => tame v (List.mem_reverse.mpr hv)) Sink.clean_ofRoom

end ViewWeave
