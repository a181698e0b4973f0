import ViewWeave.Markup.Calls
import ViewWeave.Markup.Links
import ViewWeave.Render.Outcome
import Mathlib.Data.List.Forall2

/-!
# Two renderings side by side

A twin says which templates of one rendering stand for which of another one. Steps that start from
matching states and go through the same nodes then end alike, in matching states. What the nodes may
call and link to is kept in view, so that both renderings only reach what was allowed.
-/

namespace ViewWeave

/-! ## Results -/

/-- Two results are alike: related values, or a failure on both sides. -/
def Alike {α β : Type} (V : α → β → Prop) : Except Fault α → Except Fault β → Prop
  | .ok a, .ok b => V a b
  | .error _, .error _ => True
  | _, _ => False

namespace Alike

variable {α β : Type} {V : α → β → Prop}

theorem refl (r : Except Fault α) : Alike (· = ·) r r := by
  cases r with
  | ok _ => rfl
  | error _ => trivial

theorem toOption {r₁ r₂ : Except Fault α} (h : Alike (· = ·) r₁ r₂) :
    r₁.toOption = r₂.toOption := by
  cases r₁ <;> cases r₂ <;> first | exact congrArg some h | exact h.elim | rfl

theorem mapError (f g : Fault → Fault) {r₁ : Except Fault α} {r₂ : Except Fault β}
    (h : Alike V r₁ r₂) :
    Alike V (r₁.mapError f) (r₂.mapError g) := by
  cases r₁ <;> cases r₂ <;> exact h

end Alike

theorem Eval.bind_apply {α β : Type} (m : Eval α) (k : α → Eval β) (st : State) :
    (m >>= k) st = match m st with
      | (.ok a, st') => k a st'
      | (.error f, st') => (.error f, st') := by
  show (ExceptT.bindCont k (m st).1 : StateM State _) (m st).2 = _
  rcases m st with ⟨a | f, st'⟩ <;> rfl

/-! ## What templates may do -/

/-- The functions that nodes may call, and the names of templates that one tag of them may hold. -/
structure Permit where
  call : String → Prop
  link : List String → Prop

namespace Permit

variable (P : Permit)

def Calls (names : List String) : Prop := ∀ f ∈ names, P.call f

def Links (links : List (List String)) : Prop := ∀ l ∈ links, P.link l

structure Nodes (ns : List Node) : Prop where
  calls : P.Calls (callsOfNodes ns)
  links : P.Links (linksOfNodes ns)

structure Definition (m : Macro) : Prop where
  params : P.Calls (callsOfParams m.params)
  body : P.Nodes m.body

variable {P}

@[simp] theorem calls_nil : P.Calls [] := by simp [Calls]

@[simp] theorem calls_cons {f : String} {fs : List String} :
    P.Calls (f :: fs) ↔ P.call f ∧ P.Calls fs := by
  simp [Calls]

@[simp] theorem calls_append {fs gs : List String} :
    P.Calls (fs ++ gs) ↔ P.Calls fs ∧ P.Calls gs := by
  simp [Calls, or_imp, forall_and]

@[simp] theorem links_append {ls ms : List (List String)} :
    P.Links (ls ++ ms) ↔ P.Links ls ∧ P.Links ms := by
  simp [Links, or_imp, forall_and]

theorem nodes_nil : P.Nodes [] := ⟨by simp [callsOfNodes], by simp [Links, linksOfNodes]⟩

end Permit

/-! ## Twins -/

/-- A macro with its template on each side: the templates correspond and the macro is the same, and
does what it may. -/
def LikeMacros (P : Permit) (like : Template → Template → Prop) (a b : Template × Macro) : Prop :=
  like a.1 b.1 ∧ a.2 = b.2 ∧ P.Definition a.2

def SameMacros (P : Permit) (like : Template → Template → Prop) (l₁ l₂ : Library) (n₁ n₂ : String) :
    Prop :=
  ∀ space name, Alike (LikeMacros P like) (l₁.findMacro n₁ space name) (l₂.findMacro n₂ space name)

/-- How the templates of two renderings correspond. -/
structure Twin (j₁ j₂ : Job) where
  permit : Permit
  like : Template → Template → Prop
  nodes : ∀ {t u}, like t u → t.nodes = u.nodes ∧ permit.Nodes t.nodes
  blocks : ∀ {t u}, like t u → t.blocks = u.blocks ∧ ∀ b ∈ t.blocks, permit.Nodes b.2
  parents : ∀ {t u}, like t u → t.parents = u.parents ∧ ∀ p ∈ t.parents,
    Option.Rel like (j₁.template? p) (j₂.template? p) ∧
      SameMacros permit like j₁.engine.library j₂.engine.library p p
  macros : ∀ {t u}, like t u →
    SameMacros permit like j₁.engine.library j₂.engine.library t.name u.name
  links : ∀ {names}, permit.link names →
    Option.Rel like (names.findSome? j₁.template?) (names.findSome? j₂.template?)
  helpers : ∀ {f}, permit.call f → j₁.engine.helper? f = j₂.engine.helper? f
  around : j₁.around = j₂.around
  data : j₁.data = j₂.data
  template : like j₁.template j₂.template
  root : like j₁.root j₂.root
  -- macros are looked up from the root where the root is another template than the rendered one
  named : j₁.root.name = j₁.template.name ↔ j₂.root.name = j₂.template.name
  escapes : j₁.engine.escapes j₁.template.name = j₂.engine.escapes j₂.template.name

namespace Twin

variable {j₁ j₂ : Job} (T : Twin j₁ j₂)

theorem function?_eq {f : String} (hf : T.permit.call f) (moment : Nat) :
    j₁.function? moment f = j₂.function? moment f := by
  unfold Job.function?
  rw [T.helpers hf, T.around]

include T in
theorem filter?_eq (name : String) : j₁.filter? name = j₂.filter? name := by
  unfold Job.filter?
  rw [T.around]

include T in
theorem test?_eq (name : String) : j₁.test? name = j₂.test? name := by
  unfold Job.test?
  rw [T.around]

/-! ## Matching states -/

structure Frames (f g : Frame) : Prop where
  kind : f.kind = g.kind
  template : T.like f.template g.template
  vars : f.vars = g.vars
  turn : f.turn = g.turn

structure Marks (m n : BlockMark) : Prop where
  name : m.name = n.name
  level : m.level = n.level
  macros : SameMacros T.permit T.like j₁.engine.library j₂.engine.library m.template n.template

/-- Two states match: they wrote the same and called the same, which they may. -/
structure Matches (s₁ s₂ : State) : Prop where
  frames : List.Forall₂ T.Frames s₁.frames s₂.frames
  blocks : List.Forall₂ T.Marks s₁.blocks s₂.blocks
  escaping : s₁.escaping = s₂.escaping
  out : s₁.out = s₂.out
  called : s₁.called = s₂.called
  allowed : T.permit.Calls s₁.called

theorem matches_start (room : Option Nat) : T.Matches (j₁.start room) (j₂.start room) where
  frames := .cons ⟨rfl, T.template, rfl, rfl⟩ .nil
  blocks := .nil
  escaping := T.escapes
  out := rfl
  called := rfl
  allowed := Permit.calls_nil

variable {T}

theorem rel_head? {α β : Type} {R : α → β → Prop} :
    ∀ {l₁ : List α} {l₂ : List β}, List.Forall₂ R l₁ l₂ → Option.Rel R l₁.head? l₂.head?
  | _, _, .nil => .none
  | _, _, .cons h _ => .some h

theorem Matches.active {s₁ s₂ : State} (h : T.Matches s₁ s₂) :
    T.like (j₁.active s₁) (j₂.active s₂) := by
  have hf := rel_head? h.frames
  unfold Job.active
  generalize s₁.frames.head? = f, s₂.frames.head? = g at hf
  cases hf with
  | none => exact T.template
  | some hf => exact hf.template

/-! ## Parallel steps -/

variable (T)

def Parallel {α β : Type} (V : α → β → Prop) (m₁ : Eval α) (m₂ : Eval β) : Prop :=
  ∀ s₁ s₂, T.Matches s₁ s₂ → Alike V (m₁ s₁).1 (m₂ s₂).1 ∧ T.Matches (m₁ s₁).2 (m₂ s₂).2

namespace Parallel

variable {T} {α β γ δ : Type} {V : α → β → Prop} {W : γ → δ → Prop}

theorem pure {a : α} {b : β} (h : V a b) : T.Parallel V (Pure.pure a) (Pure.pure b) :=
  fun _ _ hs => ⟨h, hs⟩

theorem throw (f g : Fault) : T.Parallel V (MonadExcept.throw f) (MonadExcept.throw g) :=
  fun _ _ hs => ⟨trivial, hs⟩

theorem ofExcept {r₁ : Except Fault α} {r₂ : Except Fault β} (h : Alike V r₁ r₂) :
    T.Parallel V (Eval.ofExcept r₁) (Eval.ofExcept r₂) :=
  fun _ _ hs => ⟨h, hs⟩

theorem bind {m₁ : Eval α} {m₂ : Eval β} {k₁ : α → Eval γ} {k₂ : β → Eval δ}
    (hm : T.Parallel V m₁ m₂)
    (hk : ∀ a b, V a b → T.Parallel W (k₁ a) (k₂ b)) : T.Parallel W (m₁ >>= k₁) (m₂ >>= k₂) := by
  intro s₁ s₂ hs
  obtain ⟨hr, ht⟩ := hm s₁ s₂ hs
  rw [Eval.bind_apply, Eval.bind_apply]
  match m₁ s₁, m₂ s₂, hr, ht with
  | (.ok a, t₁), (.ok b, t₂), hr, ht => exact hk a b hr t₁ t₂ ht
  | (.error _, _), (.error _, _), _, ht => exact ⟨trivial, ht⟩
  | (.ok _, _), (.error _, _), hr, _ => exact hr.elim
  | (.error _, _), (.ok _, _), hr, _ => exact hr.elim

/-- The rule for steps with equal results, from which what follows differs at most by the jobs. -/
theorem andThen {m₁ m₂ : Eval α} {k₁ : α → Eval γ} {k₂ : α → Eval δ} (hm : T.Parallel (· = ·) m₁ m₂)
    (hk : ∀ a, T.Parallel W (k₁ a) (k₂ a)) : T.Parallel W (m₁ >>= k₁) (m₂ >>= k₂) :=
  bind hm fun a _ h => h ▸ hk a

theorem get {k₁ : State → Eval γ} {k₂ : State → Eval δ}
    (hk : ∀ s₁ s₂, T.Matches s₁ s₂ → T.Parallel W (k₁ s₁) (k₂ s₂)) :
    T.Parallel W (MonadState.get >>= k₁) (MonadState.get >>= k₂) :=
  bind (V := T.Matches) (fun _ _ hs => ⟨hs, hs⟩) hk

theorem modify {f g : State → State} (h : ∀ s₁ s₂, T.Matches s₁ s₂ → T.Matches (f s₁) (g s₂)) :
    T.Parallel (· = ·) (modify f : Eval Unit) (modify g) :=
  fun s₁ s₂ hs => ⟨rfl, h s₁ s₂ hs⟩

end Parallel

end Twin

end ViewWeave
