import ViewWeave.Proofs.Data.Table
import ViewWeave.Proofs.Render.Filters
import ViewWeave.Proofs.Render.Twin

/-!
# What is escaped

The values of expressions are escaped when they are put out, but not all: a joined text of variables
is put out as it is, and so is an array. Here is which expressions are escaped, and what the steps
of their evaluation say about it.
-/

namespace ViewWeave

open Text

/-! ## Guarded expressions -/

def Operand.isMute : Operand → Bool
  | .str s => decide (Mute s.toList)
  | .int _ | .float _ | .bool _ => true
  | _ => false

def Operand.isCall : Operand → Bool
  | .call _ => true
  | _ => false

/-- Whether a value is escaped before any filter, or has no text of the data. A joined text is
escaped only if a function is called in it. -/
def Operand.isGuarded : Operand → Bool
  | .path p => p != Job.everything
  | .concat parts => parts.any isCall || parts.all isMute
  | _ => true

/-- A filter that is not only a mark for the evaluation. -/
def Call.isFilter (c : Call) : Bool := !(c.name = "safe" || c.name = "default")

def Expr.isMute (e : Expr) : Bool := e.filters.isEmpty && e.operand.isMute

/-- Whether the value is escaped when it is put out, or has no text of the data, arrays aside. -/
def Expr.isGuarded (e : Expr) : Bool :=
  e.negated || !Evaluator.isMarkedSafe e && (e.filters.any Call.isFilter || e.operand.isGuarded)

/-- Whether a filter over nodes brings in no markup and no text of the data. -/
def Call.isGuarded (c : Call) : Bool :=
  c.name != Filter.markupFilter &&
    c.args.all fun a => a.value.isMute || !Filter.inserted.contains (c.name, a.name)

def Node.isGuarded : Node → Bool
  | .output _ e => e.isGuarded
  | .filtered _ f _ _ => f.isGuarded
  | _ => true

/-- No registered helper has its results put out as they are. -/
def Engine.EscapesCalls (engine : Engine) : Prop :=
  ∀ name f, engine.helper? name = some f → ¬f.safe

theorem Builtin.not_safe {answer : String → Fields → Except String Value} {name : String}
    {f : Helper} (h : Builtin.get? answer name = some f) : ¬f.safe := by
  unfold Builtin.get? at h
  split_ifs at h <;> cases h
  all_goals exact Bool.false_ne_true

theorem Engine.EscapesCalls.function? {job : Job} (h : job.engine.EscapesCalls) {moment : Nat}
    {name : String} {f : Helper} (hf : job.function? moment name = some f) : ¬f.safe := by
  rcases Option.or_eq_some_iff.mp hf with registered | ⟨-, always⟩
  · exact h name f registered
  · exact Builtin.not_safe always

def Value.isTame : Value → Bool
  | .arr items => decide (Mute (Value.arr items).display)
  | _ => true

theorem Value.mute_of_isTame {v : Value} (h : v.isTame) (hs : ∀ s, v ≠ .str s) :
    Mute v.display := by
  cases v with
  | arr items => exact of_decide_eq_true h
  | str s => exact absurd rfl (hs s)
  | _ => exact mute_display_of_ne nofun nofun

/-! ## Results of steps -/

namespace Eval

variable {α β : Type} {P : α → Prop} {Q : β → Prop}

theorem bind_eq_ok {m : Eval α} {k : α → Eval β} {st st' : State} {b : β} :
    (m >>= k) st = (.ok b, st') ↔ ∃ a st₁, m st = (.ok a, st₁) ∧ k a st₁ = (.ok b, st') := by
  rw [bind_apply]
  rcases m st with ⟨e | a, st₁⟩
  · refine ⟨fun h => (nomatch h), ?_⟩
    rintro ⟨a, st₂, h, -⟩
    cases h
  · refine ⟨fun h => ⟨a, st₁, rfl, h⟩, ?_⟩
    rintro ⟨a, st₂, h, hk⟩
    cases h
    exact hk

def Gives (P : α → Prop) (m : Eval α) : Prop := ∀ st a st', m st = (.ok a, st') → P a

theorem gives_pure {a : α} (h : P a) : Gives P (pure a) := by
  intro st b st' hb
  cases hb
  exact h

theorem gives_throw (f : Fault) : Gives P (throw f) := by
  intro st b st' hb
  cases hb

theorem gives_any (m : Eval α) : Gives (fun _ => True) m := fun _ _ _ _ => trivial

theorem Gives.bind {m : Eval α} {k : α → Eval β} (hm : Gives P m) (hk : ∀ a, P a → Gives Q (k a)) :
    Gives Q (m >>= k) := by
  intro st b st' hb
  obtain ⟨a, st₁, ha, hb⟩ := bind_eq_ok.mp hb
  exact hk a (hm st a st₁ ha) st₁ b st' hb

theorem gives_after {m : Eval α} {k : α → Eval β} (hk : ∀ a, Gives Q (k a)) : Gives Q (m >>= k) :=
  (gives_any m).bind fun a _ => hk a

theorem Gives.verbatim {m : Eval α} (h : Gives P m) : Gives P (verbatim m) := by
  intro st a st' ha
  unfold Eval.verbatim at ha
  cases hm : m { st with escaping := false } with
  | mk r st₁ =>
    rw [hm] at ha
    cases ha
    exact h _ a st₁ hm

theorem Gives.wrapping {m : Eval α} (h : Gives P m) (wrap : Fault → Fault) :
    Gives P (wrapping wrap m) := by
  intro st a st' ha
  unfold Eval.wrapping at ha
  cases hm : m st with
  | mk r st₁ =>
    rw [hm] at ha
    cases r <;> cases ha
    exact h st a st' hm

end Eval

open Eval

namespace Evaluator

variable {job : Job} {ev : Evaluator}

/-! ## Literals -/

def MuteLiterals (ev : Evaluator) : Prop :=
  ∀ e : Expr, e.isMute → (ev.value e).Gives fun v => Mute v.display

/-! ## Filters -/

theorem gives_argValues (h : ev.MuteLiterals) (wrap : Fault → Fault) : ∀ as : List Arg,
    (ev.argValues wrap as).Gives fun vs =>
      ∀ x ∈ vs, ∃ a ∈ as, a.name = x.1 ∧ (a.value.isMute → Mute x.2.display)
  | [] => gives_pure (by simp)
  | a :: as => by
    have value : (Eval.wrapping wrap (ev.plain a.value)).Gives fun v =>
        a.value.isMute → Mute v.display := by
      by_cases mute : a.value.isMute
      · have shown := ((h a.value mute).verbatim).wrapping wrap
        exact fun st v st' hv _ => shown st v st' hv
      · exact fun _ _ _ _ hm => absurd hm mute
    refine value.bind fun v hv => (gives_argValues h wrap as).bind fun vs hvs => gives_pure ?_
    intro x hx
    rcases Sorted.mem_insert hx with rfl | hx
    · exact ⟨a, List.mem_cons_self, rfl, hv⟩
    · obtain ⟨b, hb, named⟩ := hvs x hx
      exact ⟨b, List.mem_cons_of_mem _ hb, named⟩

/-- A guarded filter makes no markup of a text that has none. -/
theorem gives_filter (h : ev.MuteLiterals) (around : job.around.KeepMute) {s : String}
    (hs : Mute s.toList) {c : Call} (hc : c.isGuarded) :
    (ev.filter job (.str s) c).Gives fun v => Mute v.display := by
  simp only [Call.isGuarded, Bool.and_eq_true, bne_iff_ne, List.all_eq_true, Bool.or_eq_true] at hc
  unfold Evaluator.filter
  split
  · rename_i f hf
    refine (gives_argValues h _ c.args).bind fun args hargs => ?_
    have mute : Filter.MuteArgs c.name args := by
      intro key t inserted ht
      obtain ⟨a, ha, named, shown⟩ := hargs _ (Sorted.mem_of_lookup ht)
      rcases hc.2 a ha with literal | other
      · exact shown literal
      · dsimp only at named
        rw [named] at other
        simp [inserted] at other
    split
    · rename_i v hv
      exact gives_pure (Job.keeps_filter? around hf hc.1 s args v hs mute hv)
    · exact gives_throw _
  · exact gives_throw _

theorem gives_filtered : ∀ (v : Value) (escape : Bool) (cs : List Call),
    (ev.filtered job v escape cs).Gives fun r =>
      (escape ∨ cs.any Call.isFilter → r.2) ∧ (¬cs.any Call.isFilter → r = (v, escape))
  | v, escape, [] => gives_pure (by simp)
  | v, escape, c :: cs => by
    unfold Evaluator.filtered
    split
    · rename_i mark
      have same : (c :: cs).any Call.isFilter = cs.any Call.isFilter := by
        simp [Call.isFilter, mark]
      rw [same]
      exact gives_filtered v escape cs
    · rename_i filter
      have some : (c :: cs).any Call.isFilter := by simp [Call.isFilter, filter]
      refine gives_after fun w => ?_
      intro st r st' hr
      have on := (gives_filtered w true cs st r st' hr).1 (.inl rfl)
      exact ⟨fun _ => on, fun none => absurd some none⟩

/-! ## Joined texts -/

section
variable (hf : job.engine.EscapesCalls)
include hf

theorem gives_call (c : Call) : (ev.call job c).Gives fun r => r.2 = false := by
  refine gives_after fun _ => ?_
  split
  · rename_i f hc
    refine gives_after fun args => ?_
    split
    · exact gives_pure (by simpa using hf.function? hc)
    · exact gives_throw _
  · exact gives_throw _

theorem gives_partText (escape : Bool) (o : Operand) : (ev.partText job escape o).Gives fun r =>
    (escape ∨ o.isCall → r.2) ∧ (o.isMute → Mute r.1) := by
  cases o with
  | str s => exact gives_pure (by simp [Operand.isCall, Operand.isMute])
  | int i => exact gives_pure (by simp [Operand.isCall])
  | float x => exact gives_pure (by simp [Operand.isCall])
  | path p =>
    refine gives_after fun v => ?_
    split
    · exact gives_pure (by simp [Operand.isCall, Operand.isMute])
    · exact gives_pure (by simp [Operand.isCall, Operand.isMute])
    · exact gives_throw _
  | call c =>
    refine (gives_call hf c).bind fun r hr => ?_
    split
    · exact gives_pure (by simp_all [Operand.isMute])
    · exact gives_pure (by simp_all [Operand.isMute])
    · exact gives_throw _
  | _ => exact gives_throw _

theorem gives_joinedText : ∀ (escape : Bool) (ps : List Operand),
    (ev.joinedText job escape ps).Gives fun r =>
    (escape ∨ ps.any Operand.isCall → r.2) ∧ (ps.all Operand.isMute → Mute r.1)
  | _, [] => gives_pure (by simp)
  | escape, p :: ps => by
    refine (gives_partText hf escape p).bind fun s hs => ?_
    refine (gives_joinedText s.2 ps).bind fun rest hrest => gives_pure ?_
    simp only [List.any_cons, List.all_cons, Bool.or_eq_true, Bool.and_eq_true, mute_append]
    refine ⟨?_, fun mute => ⟨hs.2 mute.1, hrest.2 mute.2⟩⟩
    rintro (on | call | call)
    · exact hrest.1 (.inl (hs.1 (.inl on)))
    · exact hrest.1 (.inl (hs.1 (.inr call)))
    · exact hrest.1 (.inr call)

end

end Evaluator

end ViewWeave
