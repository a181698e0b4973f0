import ViewWeave.Proofs.Render.Twin

/-!
# The elementary steps of two renderings

What a step does to the state, it does to two matching states alike: writing, keeping output back,
frames, variables, and the look-up of paths.
-/

namespace ViewWeave

/-! ## Results -/

namespace Alike

variable {α β γ δ : Type} {V : α → β → Prop} {W : γ → δ → Prop}

theorem bind {r₁ : Except Fault α} {r₂ : Except Fault β} {k₁ : α → Except Fault γ}
    {k₂ : β → Except Fault δ} (h : Alike V r₁ r₂) (hk : ∀ a b, V a b → Alike W (k₁ a) (k₂ b)) :
    Alike W (r₁ >>= k₁) (r₂ >>= k₂) := by
  match r₁, r₂, h with
  | .ok a, .ok b, h => exact hk a b h
  | .error _, .error _, _ => trivial

theorem foldlM {ι : Type} {f g : γ → ι → Except Fault γ}
    (h : ∀ a x, Alike (· = ·) (f a x) (g a x)) :
    ∀ (xs : List ι) (a : γ), Alike (· = ·) (xs.foldlM f a) (xs.foldlM g a)
  | [], a => by
    rw [List.foldlM_nil, List.foldlM_nil]
    exact Alike.refl _
  | x :: xs, a => by
    rw [List.foldlM_cons, List.foldlM_cons]
    refine bind (h a x) fun b _ hb => ?_
    subst hb
    exact foldlM h xs b

end Alike

/-! ## Paths -/

/-- The template that a path stands in is only told by failures. -/
theorem Path.resolve_alike (find : List Char → Option Value) (t u : String) :
    ∀ (n : Nat) (path : List Char), Alike (· = ·) (resolve find t n path) (resolve find u n path)
  | 0, _ => trivial
  | n + 1, path => by
    unfold resolve
    dsimp only
    split
    · refine Alike.bind (V := (· = ·)) (Alike.foldlM (fun full s => ?_) _ _) fun full _ h => ?_
      · have hs := resolve_alike find t u n s
        match resolve find t n s, resolve find u n s, hs with
        | .ok v, .ok _, rfl => exact Alike.refl _
        | .error _, .error _, _ => trivial
      · subst h
        split
        · rfl
        · trivial
    · split
      · rfl
      · trivial

namespace Twin

variable {j₁ j₂ : Job} {T : Twin j₁ j₂}

/-! ## Variables -/

theorem Frames.find? {f g : Frame} (h : T.Frames f g) (key : List Char) :
    f.find? key = g.find? key := by
  unfold Frame.find?
  rw [h.vars, h.turn]

theorem Frames.isClosed {f g : Frame} (h : T.Frames f g) : f.isClosed = g.isClosed := by
  unfold Frame.isClosed
  rw [h.kind]

theorem Frames.isLoop {f g : Frame} (h : T.Frames f g) : f.isLoop = g.isLoop := by
  unfold Frame.isLoop
  rw [h.kind]

theorem lookup_eq (key : List Char) {fs gs : List Frame} (h : List.Forall₂ T.Frames fs gs) :
    Frame.lookup key fs = Frame.lookup key gs := by
  induction h with
  | nil => rfl
  | cons hf _ ih =>
    unfold Frame.lookup
    rw [hf.find? key, hf.isClosed, ih]

theorem visible_eq (data : Fields) {fs gs : List Frame} (h : List.Forall₂ T.Frames fs gs) :
    ∀ seen, Frame.visible data seen fs = Frame.visible data seen gs := by
  induction h with
  | nil => intro seen; rfl
  | cons hf _ ih =>
    intro seen
    unfold Frame.visible
    rw [hf.vars, hf.turn, hf.kind]
    dsimp only
    split
    · rfl
    · exact ih _

theorem Matches.lookup {s₁ s₂ : State} (h : T.Matches s₁ s₂) (path : String) :
    Alike (· = ·) (j₁.lookup s₁ path) (j₂.lookup s₂ path) := by
  unfold Job.lookup
  split
  · rw [T.data, visible_eq j₂.data h.frames]
    exact Alike.refl _
  · have hfind : (fun key => (Frame.lookup key s₁.frames).or (j₁.data.find? key)) =
        fun key => (Frame.lookup key s₂.frames).or (j₂.data.find? key) := by
      funext key
      rw [lookup_eq key h.frames, T.data]
    dsimp only
    rw [hfind]
    exact Path.resolve_alike _ _ _ _ _

theorem Frames.set {f g : Frame} (h : T.Frames f g) (name : String) (v : Value) :
    T.Frames { f with vars := Fields.insert name v f.vars }
      { g with vars := Fields.insert name v g.vars } :=
  { h with vars := by rw [h.vars] }

theorem setInner (name : String) (v : Value) {fs gs : List Frame}
    (h : List.Forall₂ T.Frames fs gs) :
    List.Forall₂ T.Frames (Frame.setInner name v fs) (Frame.setInner name v gs) := by
  cases h with
  | nil => exact .nil
  | cons hf hrest => exact .cons (hf.set name v) hrest

theorem setOuter (name : String) (v : Value) {fs gs : List Frame}
    (h : List.Forall₂ T.Frames fs gs) :
    List.Forall₂ T.Frames (Frame.setOuter name v fs) (Frame.setOuter name v gs) := by
  induction h with
  | nil => exact .nil
  | cons hf hrest ih =>
    unfold Frame.setOuter
    rw [hf.isLoop]
    split
    · exact .cons hf ih
    · exact .cons (hf.set name v) hrest

/-! ## Steps -/

namespace Parallel

variable {α β : Type} {V : α → β → Prop}

theorem write (s : String) : T.Parallel (· = ·) (Eval.write s) (Eval.write s) := by
  intro s₁ s₂ h
  have same : s₁.out.write s = s₂.out.write s := by rw [h.out]
  refine ⟨?_, { h with out := congrArg Prod.fst same }⟩
  show Alike _ (if (s₁.out.write s).2 then _ else _) (if (s₂.out.write s).2 then _ else _)
  rw [same]
  exact Alike.refl _

theorem putOut (v : Value) : T.Parallel (· = ·) (Eval.putOut v) (Eval.putOut v) :=
  andThen (modify fun _ _ h => { h with }) fun _ => write _

theorem note {f : String} (hf : T.permit.call f) :
    T.Parallel (· = ·) (Eval.note f) (Eval.note f) := by
  refine fun s₁ s₂ h => ⟨congrArg List.length h.called, { h with called := ?_, allowed := ?_ }⟩
  · exact congrArg (f :: ·) h.called
  · exact Permit.calls_cons.mpr ⟨hf, h.allowed⟩

theorem look (path : String) : T.Parallel (· = ·) (j₁.look path) (j₂.look path) :=
  get fun _ _ h => ofExcept (h.lookup path)

theorem push {f g : Frame} (h : T.Frames f g) : T.Parallel (· = ·) (Eval.push f) (Eval.push g) :=
  modify fun _ _ hs => { hs with frames := .cons h hs.frames }

theorem pop : T.Parallel (· = ·) Eval.pop Eval.pop :=
  modify fun _ _ h => { h with frames := forall₂_tail h.frames }
where
  forall₂_tail {ι κ : Type} {R : ι → κ → Prop} {l₁ : List ι} {l₂ : List κ}
      (h : List.Forall₂ R l₁ l₂) : List.Forall₂ R l₁.tail l₂.tail := by
    cases h with
    | nil => exact .nil
    | cons _ h => exact h

theorem onFrame {f : Frame → Frame} (h : ∀ a b, T.Frames a b → T.Frames (f a) (f b)) :
    T.Parallel (· = ·) (Eval.onFrame f) (Eval.onFrame f) := by
  refine modify fun s₁ s₂ hs => ?_
  obtain ⟨fs, _, _, _, _, _⟩ := s₁
  obtain ⟨gs, _, _, _, _, _⟩ := s₂
  have hf : List.Forall₂ T.Frames fs gs := hs.frames
  cases hf with
  | nil => exact hs
  | cons hab hrest => exact { hs with frames := .cons (h _ _ hab) hrest }

theorem assign (name : String) (v : Value) (outer : Bool) :
    T.Parallel (· = ·) (Job.assign name v outer) (Job.assign name v outer) := by
  refine modify fun s₁ s₂ hs => { hs with frames := ?_ }
  cases outer with
  | true => exact setOuter name v hs.frames
  | false => exact setInner name v hs.frames

theorem capture {m₁ m₂ : Eval Unit} (h : T.Parallel (· = ·) m₁ m₂) :
    T.Parallel (· = ·) (Eval.capture m₁) (Eval.capture m₂) := by
  intro s₁ s₂ hs
  obtain ⟨hr, ht⟩ := h { s₁ with out := .ofRoom none } { s₂ with out := .ofRoom none }
    { hs with out := rfl }
  unfold Eval.capture
  match m₁ { s₁ with out := .ofRoom none }, m₂ { s₂ with out := .ofRoom none }, hr, ht with
  | (.ok _, t₁), (.ok _, t₂), _, ht =>
    refine ⟨?_, { ht with out := hs.out }⟩
    show t₁.out.text = t₂.out.text
    rw [ht.out]
  | (.error _, _), (.error _, _), _, ht => exact ⟨trivial, { ht with out := hs.out }⟩
  | (.ok _, _), (.error _, _), hr, _ => exact hr.elim
  | (.error _, _), (.ok _, _), hr, _ => exact hr.elim

theorem verbatim {m₁ : Eval α} {m₂ : Eval β} (h : T.Parallel V m₁ m₂) :
    T.Parallel V (Eval.verbatim m₁) (Eval.verbatim m₂) := by
  intro s₁ s₂ hs
  obtain ⟨hr, ht⟩ := h { s₁ with escaping := false } { s₂ with escaping := false }
    { hs with escaping := rfl }
  exact ⟨hr, { ht with escaping := hs.escaping }⟩

theorem attempt {m₁ m₂ : Eval α} (h : T.Parallel (· = ·) m₁ m₂) :
    T.Parallel (Alike (· = ·)) (Eval.attempt m₁) (Eval.attempt m₂) :=
  fun s₁ s₂ hs => h s₁ s₂ hs

theorem wrapping (f g : Fault → Fault) {m₁ : Eval α} {m₂ : Eval β} (h : T.Parallel V m₁ m₂) :
    T.Parallel V (Eval.wrapping f m₁) (Eval.wrapping g m₂) := by
  intro s₁ s₂ hs
  obtain ⟨hr, ht⟩ := h s₁ s₂ hs
  exact ⟨hr.mapError f g, ht⟩

end Parallel

end Twin

end ViewWeave
