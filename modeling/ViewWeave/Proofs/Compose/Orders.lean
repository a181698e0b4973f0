import ViewWeave.Proofs.Compose.Failures
import ViewWeave.Proofs.Markup.Template
import ViewWeave.Proofs.Markup.Walk

/-!
# Compositions in two orders

The order of a walk has no part in whether composition ends in a registry, in which one, in what is
logged, and in which check fails. It can only have one in which function is named, where the
arguments of one call mix several that are not bound.
-/

namespace ViewWeave

/-! ## Steps that agree -/

/-- Two steps end alike: in one value, or in failures that are alike. -/
inductive EndAlike {α : Type} (alike : InitError → InitError → Prop) :
    Except InitError α → Except InitError α → Prop
  | ok (a : α) : EndAlike alike (.ok a) (.ok a)
  | error {e f : InitError} : alike e f → EndAlike alike (.error e) (.error f)

section
variable {α β : Type} {alike : InitError → InitError → Prop}

theorem EndAlike.refl (h : ∀ e, alike e e) (r : Except InitError α) : EndAlike alike r r := by
  cases r with
  | ok a => exact .ok a
  | error e => exact .error (h e)

theorem EndAlike.mono {alike' : InitError → InitError → Prop} {r s : Except InitError α}
    (h : EndAlike alike r s) (weaken : ∀ {e f}, alike e f → alike' e f) : EndAlike alike' r s := by
  cases h with
  | ok a => exact .ok a
  | error h => exact .error (weaken h)

theorem EndAlike.eq_ok {a : α} {r : Except InitError α} (h : EndAlike alike (.ok a) r) :
    r = .ok a := by
  cases h
  rfl

/-- The steps log the same and end alike. -/
structure Build.Agree (alike : InitError → InitError → Prop) (m n : Build α) : Prop where
  events : m.events = n.events
  result : EndAlike alike m.result n.result

theorem Build.agree_refl (h : ∀ e, alike e e) (m : Build α) : Agree alike m m := ⟨rfl, .refl h _⟩

theorem Build.Agree.bind {m n : Build α} {k l : α → Build β} (h : Agree alike m n)
    (hk : ∀ a, m.result = .ok a → Agree alike (k a) (l a)) : Agree alike (m >>= k) (n >>= l) := by
  obtain ⟨m, events⟩ := m
  obtain ⟨n, events'⟩ := n
  obtain ⟨logged, ended⟩ := h
  cases ended with
  | ok a =>
    obtain ⟨logged', ended'⟩ := hk a rfl
    exact ⟨congrArg₂ (· ++ ·) logged logged', ended'⟩
  | error h => exact ⟨logged, .error h⟩

theorem Build.agree_foldlM (h : ∀ e, alike e e) {f g : β → α → Build β} :
    ∀ {xs : List α}, (∀ x ∈ xs, ∀ b, Agree alike (f b x) (g b x)) →
      ∀ b, Agree alike (xs.foldlM f b) (xs.foldlM g b)
  | [], _, b => agree_refl h (pure b)
  | x :: xs, steps, b => by
    rw [List.foldlM_cons, List.foldlM_cons]
    exact (steps x (List.mem_cons_self ..) b).bind fun b _ =>
      agree_foldlM h (fun y hy => steps y (List.mem_cons_of_mem _ hy)) b

end

/-! ## Names that differ -/

/-- Neither of two functions is bound, and the text calls both of them; some call in it mixes
arguments that both call functions that are not bound. -/
structure ComposedTemplate.MayName (helpers : Helpers) (t : ComposedTemplate) (f g : String) :
    Prop where
  unbound : ¬helpers.isBound f ∧ ¬helpers.isBound g
  called : ∃ ns, readNodes t.source = .ok ns ∧ (∃ n ∈ ns, n.Calls f) ∧ (∃ n ∈ ns, n.Calls g) ∧
    ¬∀ n ∈ ns, n.Unmixed helpers.isBound

/-- Two failures of composition are one, or they name two functions that one text calls. -/
inductive InitError.SameButNamed (source : ViewSource) (v : ViewLayout) (helpers : Helpers) :
    InitError → InitError → Prop
  | same (e : InitError) : SameButNamed source v helpers e e
  | named {t : ComposedTemplate} {f g : String} : t ∈ pairsOf source v → t.MayName helpers f g →
    SameButNamed source v helpers (.unboundFunction t.name.text f) (.unboundFunction t.name.text g)

theorem compileOne_unbound {order : WalkOrder} {helpers : Helpers} {library : Library}
    {t : ComposedTemplate} {template : Template} {f : String}
    (hs : Template.ofSource library t.name.text t.source = .ok template)
    (hf : firstUnbound? order helpers.isBound t.name.text template.nodes = some f) :
    compileOne order helpers library t = .error (.unboundFunction t.name.text f) := by
  simp only [compileOne, hs, Except.mapError, bind, Except.bind, hf]

theorem compileOne_bound {order : WalkOrder} {helpers : Helpers} {library : Library}
    {t : ComposedTemplate} {template : Template}
    (hs : Template.ofSource library t.name.text t.source = .ok template)
    (hf : firstUnbound? order helpers.isBound t.name.text template.nodes = none) :
    compileOne order helpers library t = .ok template := by
  simp only [compileOne, hs, Except.mapError, bind, Except.bind, hf]

theorem compileOne_alike {alike : InitError → InitError → Prop} (o₁ o₂ : WalkOrder)
    (helpers : Helpers) (library : Library) (t : ComposedTemplate) (refl : ∀ e, alike e e)
    (named : ∀ {f g}, t.MayName helpers f g →
      alike (.unboundFunction t.name.text f) (.unboundFunction t.name.text g)) :
    EndAlike alike (compileOne o₁ helpers library t) (compileOne o₂ helpers library t) := by
  cases hs : Template.ofSource library t.name.text t.source with
  | error fault =>
    have failed (o : WalkOrder) :
        compileOne o helpers library t = .error (.compile t.name.text t.label fault) := by
      simp only [compileOne, hs, Except.mapError, bind, Except.bind]
    rw [failed, failed]
    exact .error (refl _)
  | ok template =>
    obtain ⟨-, read⟩ := Template.ofSource_eq_ok_iff.mp hs
    have same : firstUnbound? o₁ helpers.isBound t.name.text template.nodes = none ↔
        firstUnbound? o₂ helpers.isBound t.name.text template.nodes = none := by
      rw [firstUnbound?_eq_none, firstUnbound?_eq_none]
    cases hf : firstUnbound? o₁ helpers.isBound t.name.text template.nodes with
    | none =>
      rw [compileOne_bound hs hf, compileOne_bound hs (same.mp hf)]
      exact .ok template
    | some f =>
      obtain ⟨g, hg⟩ :
          ∃ g, firstUnbound? o₂ helpers.isBound t.name.text template.nodes = some g := by
        refine Option.ne_none_iff_exists'.mp fun none => ?_
        rw [same.mpr none] at hf
        cases hf
      rw [compileOne_unbound hs hf, compileOne_unbound hs hg]
      obtain ⟨calledF, unboundF⟩ := mem_of_firstUnbound? hf
      obtain ⟨calledG, unboundG⟩ := mem_of_firstUnbound? hg
      by_cases unmixed : ∀ n ∈ template.nodes, n.Unmixed helpers.isBound
      · have one := (o₁.walks t.name.text _).firstIn_eq (o₂.walks t.name.text _) unmixed
        cases (hf.symm.trans one).trans hg
        exact .error (refl _)
      · exact .error (named ⟨⟨unboundF, unboundG⟩, _, read.nodes, calledF, calledG, unmixed⟩)

section
variable {source : ViewSource} {v : ViewLayout}

theorem add_agree (o₁ o₂ : WalkOrder) (helpers : Helpers) {t : ComposedTemplate}
    (ht : t ∈ pairsOf source v) (c : Composed) :
    Build.Agree (InitError.SameButNamed source v helpers) (c.add o₁ helpers t)
      (c.add o₂ helpers t) := by
  unfold Composed.add
  refine Build.Agree.bind ⟨rfl, ?_⟩ fun _ _ => Build.agree_refl .same _
  show EndAlike _ (c.compile o₁ helpers t) (c.compile o₂ helpers t)
  unfold Composed.compile
  cases c.templates.lookup t.name.text with
  | some first => exact .error (.same _)
  | none => exact compileOne_alike o₁ o₂ helpers c.library t .same (.named ht)

/-- **Orders.** Compositions in two orders log the same and end alike. -/
theorem compose_orders (source : ViewSource) (v : ViewLayout) (helpers : Helpers)
    (o₁ o₂ : WalkOrder) :
    Build.Agree (InitError.SameButNamed source v helpers) (compose o₁ source v helpers)
      (compose o₂ source v helpers) := by
  have same {α : Type} (m : Build α) : Build.Agree (InitError.SameButNamed source v helpers) m m :=
    Build.agree_refl .same m
  unfold compose
  dsimp only
  refine (same _).bind fun layouts hl => (same _).bind fun pages hp =>
    (same _).bind fun shared hs => ?_
  obtain ⟨-, rfl⟩ := scan_ok_iff.mp hl
  obtain ⟨-, rfl⟩ := scan_ok_iff.mp hp
  obtain ⟨-, rfl⟩ := scan_ok_iff.mp hs
  refine (same _).bind fun named hln => (same _).bind fun named' hpn =>
    (same _).bind fun texts ht => ?_
  rw [Build.result_ofExcept, namedFragments_eq_verdict] at hln hpn
  rw [Build.result_ofExcept, mapM_verdict fun path _ => source.content_eq_verdict path] at ht
  obtain ⟨-, rfl⟩ := verdict_eq_ok.mp hln
  obtain ⟨-, rfl⟩ := verdict_eq_ok.mp hpn
  obtain ⟨-, rfl⟩ := verdict_eq_ok.mp ht
  refine (same _).bind fun _ _ => .bind ?_ fun done _ => same _
  exact Build.agree_foldlM .same (fun t ht c => add_agree o₁ o₂ helpers ht c) _

end

/-! ## Two orders that differ -/

/-- The walks that take the two arguments of a call in their order, if the call is all there is. -/
def WalkOrder.firstFirst : WalkOrder where
  walk _ ns :=
    match ns with
    | [.output _ (.mk (.call (.mk f [.mk _ a, .mk _ b])) _ [])] => f :: (a.calls ++ b.calls)
    | ns => callsOfNodes ns
  walks _ ns := by
    split
    · rename_i marks f m a n b negated
      have args : WalkArgs [.mk m a, .mk n b] (a.calls ++ (b.calls ++ [])) :=
        .cons a.walk_calls (.cons b.walk_calls .nil)
      have output : Node.Walk
          (.output marks (.mk (.call (.mk f [.mk m a, .mk n b])) negated [])) _ :=
        .output (.mk (.call args) .nil)
      simpa using WalkNodes.cons output .nil
    · exact walkNodes_calls _

end ViewWeave
