import ViewWeave.Proofs.Compose.Library
import ViewWeave.Proofs.Registry.Rendering
import ViewWeave.Proofs.Render.Reach
import ViewWeave.Source.Embedded

/-!
# Only bound functions are called

A rendering is its own twin where all templates it can reach only do what they may. The templates of
a registry were searched for calls of functions that are not bound, so whatever a rendering calls is
bound, on whatever way it comes to the call.
-/

namespace ViewWeave

/-! ## A rendering beside itself -/

def Itself (P : Permit) (t u : Template) : Prop := t = u ∧ P.Whole t

section
variable {P : Permit} {job : Job}

theorem rel_template? (hl : P.Covers job.engine.library) (name : String) :
    Option.Rel (Itself P) (job.template? name) (job.template? name) := by
  cases h : job.template? name with
  | none => exact .none
  | some u => exact .some ⟨rfl, hl name u h⟩

theorem sameMacros_self (hl : P.Covers job.engine.library) (name : String) :
    SameMacros P (Itself P) job.engine.library job.engine.library name name := by
  intro space macroName
  cases h : job.engine.library.findMacro name space macroName with
  | error f => trivial
  | ok m =>
    obtain ⟨owner, definition⟩ := Library.findMacro_own hl h
    exact ⟨⟨rfl, owner⟩, rfl, definition⟩

def Twin.itself (hl : P.Covers job.engine.library)
    (ht : P.Whole job.template) : Twin job job where
  permit := P
  like := Itself P
  nodes h := ⟨congrArg _ h.1, h.2.nodes⟩
  blocks h := ⟨congrArg _ h.1, h.2.blocks⟩
  parents h := ⟨congrArg _ h.1, fun p _ => ⟨rel_template? hl p, sameMacros_self hl p⟩⟩
  macros h := h.1 ▸ sameMacros_self hl _
  links {names} _ := by
    cases h : names.findSome? job.template? with
    | none => exact .none
    | some u =>
      obtain ⟨name, -, hu⟩ := List.exists_of_findSome?_eq_some h
      exact .some ⟨rfl, hl name u hu⟩
  helpers _ := rfl
  around := rfl
  data := rfl
  template := ⟨rfl, ht⟩
  root := by
    refine ⟨rfl, ?_⟩
    unfold Job.root
    cases h : job.template.parents.getLast?.bind job.template? with
    | none => exact ht
    | some u =>
      obtain ⟨p, -, hu⟩ := Option.bind_eq_some_iff.mp h
      exact hl p u hu
  named := Iff.rfl
  escapes := rfl

theorem runTo_calls (hl : P.Covers job.engine.library)
    (ht : P.Whole job.template) (n : Nat) : P.Calls (job.runTo n).called :=
  ((Twin.itself hl ht).runInto_parallel none n).2.2.1

end

/-! ## Registries -/

/-- A function that is bound is found, at every call. -/
theorem Job.function?_isSome {job : Job} {helpers : Helpers} (h : job.engine.helper? = helpers.get?)
    {f : String} (hf : helpers.isBound f) (moment : Nat) : (job.function? moment f).isSome := by
  unfold Helpers.isBound Helpers.contains at hf
  unfold function?
  rw [h]
  cases hg : helpers.get? f with
  | some helper => rfl
  | none =>
    rw [hg] at hf
    rw [Option.none_or]
    unfold Builtin.get?
    split_ifs with h₁ h₂ h₃
    · rfl
    · rfl
    · rfl
    · exact absurd hf h₃

/-- Templates may call what is bound, and link to whatever they like. -/
def Helpers.permit (helpers : Helpers) : Permit := ⟨fun f => helpers.isBound f, fun _ => True⟩

theorem Compiled.whole {helpers : Helpers} {t : ComposedTemplate} {template : Template}
    (h : Compiled helpers t template) : helpers.permit.Whole template := by
  obtain ⟨library, read⟩ := h.read
  have nodes : helpers.permit.Nodes template.nodes := ⟨h.bound, fun _ _ => trivial⟩
  refine ⟨nodes, ?_, ?_⟩
  · rw [read.blocks]
    exact Permit.nodes_of_blocks nodes
  · rw [read.macros]
    exact Permit.definition_of_macros nodes

/-- **Calls.** A template of a registry that was composed only calls functions that are bound, and
all of these are found, however deep its nodes and expressions may be nested. -/
theorem render_calls_bound {order : WalkOrder} {source : ViewSource} {v : ViewLayout}
    {helpers : Helpers} {r : Registry} {around : Surroundings} {name : String} {data : Value}
    {job : Job} {o : Outcome} (h : (compose order source v helpers).run.1 = .ok r)
    (ho : r.outcome around name data = .ok (job, o)) :
    (∀ f ∈ o.called, helpers.isBound f ∧ ∀ moment, (job.function? moment f).isSome) ∧
      ∀ n, ∀ f ∈ (job.runTo n).called,
        helpers.isBound f ∧ ∀ moment, (job.function? moment f).isSome := by
  have made := wellMade_of_compose h
  obtain ⟨t, template, fields, -, htemplate, -, rfl, rfl⟩ := Registry.outcome_eq_ok ho
  have covers : helpers.permit.Covers r.engine.library := by
    intro name u hu
    obtain ⟨t, -, compiled⟩ := made.of_library hu
    exact compiled.whole
  let job : Job := ⟨r.engine, around, template, fields⟩
  have bound : ∀ n, ∀ f ∈ (job.runTo n).called,
      helpers.isBound f ∧ ∀ moment, (job.function? moment f).isSome := by
    intro n f hf
    have hb : helpers.isBound f := runTo_calls covers (covers name template htemplate) n f hf
    exact ⟨hb, Job.function?_isSome made.helpers hb⟩
  exact ⟨bound _, bound⟩

def greeting : ViewSource :=
  (EmbeddedSource.ofFiles [
    ("layouts/plain.html.tera", "{{ greet() }}"),
    ("pages/about.html.tera", "{{ x | default(value=range(end=1)) }}"),
    ("shared/foot.tera", "{% if false %}{{ greet() }}{% endif %}")]).toSource

def greeters : Helpers := Helpers.empty.register "greet" (.const (.str "hi") false)

def greetingRegistry : Registry := registryOf .standard greeters (pairsOf greeting .standard)

theorem greeting_ok :
    (compose .lastFirst greeting .standard greeters).run.1 = .ok greetingRegistry :=
  compose_of_failures (by decide +kernel)

theorem greeting_called : (greetingRegistry.outcome .bare "plain:about" .null).toOption.map
    (fun result => result.2.called) = some ["greet", "range"] := by
  decide +kernel

theorem render_calls_bound_greeting : ∃ job o,
    greetingRegistry.outcome .bare "plain:about" .null = .ok (job, o) ∧
      o.called = ["greet", "range"] ∧
      (∀ f ∈ o.called, greeters.isBound f ∧ ∀ moment, (job.function? moment f).isSome) ∧
        ∀ n, ∀ f ∈ (job.runTo n).called,
          greeters.isBound f ∧ ∀ moment, (job.function? moment f).isSome := by
  have called := greeting_called
  cases ho : greetingRegistry.outcome .bare "plain:about" .null with
  | error e =>
    rw [ho] at called
    cases called
  | ok result =>
    rw [ho] at called
    exact ⟨result.1, result.2, rfl, Option.some.inj called, render_calls_bound greeting_ok ho⟩

end ViewWeave
