import ViewWeave.Proofs.Compose.Failures
import ViewWeave.Proofs.Markup.Template
import ViewWeave.Proofs.Markup.Walk

/-!
# The templates of a registry

The library of a registry holds a template for each entry of its table and for nothing else. It was
read from the entry's text, and all functions that it calls are bound.
-/

namespace ViewWeave

/-! ## Tables and libraries -/

/-- The template was read from the text of this entry, and only calls functions that are bound. -/
structure Compiled (helpers : Helpers) (t : ComposedTemplate) (template : Template) : Prop where
  name : template.name = t.name.text
  read : ∃ library, template.ReadFrom library t.source
  bound : ∀ f ∈ callsOfNodes template.nodes, helpers.isBound f

theorem Compiled.exists_ofSource {helpers : Helpers} {t : ComposedTemplate} {template : Template}
    (h : Compiled helpers t template) :
    ∃ library, Template.ofSource library t.name.text t.source = .ok template := by
  obtain ⟨library, read⟩ := h.read
  exact ⟨library, Template.ofSource_eq_ok_iff.mpr ⟨h.name, read⟩⟩

/-- The table and the library of these pairs have the same names, and for each of them a template
that was made from the entry. -/
def Paired (helpers : Helpers) (ts : List ComposedTemplate) : Prop :=
  ∀ name, Option.Rel (Compiled helpers) ((tableOf ts).lookup name) ((libraryOf ts).lookup name)

section
variable {order : WalkOrder} {helpers : Helpers}

theorem paired_nil : Paired helpers [] := fun _ => .none

theorem compiled_of_compileFailures {library : Library} {t : ComposedTemplate}
    (h : compileFailures order helpers library t = []) : ∃ template,
      Template.ofSource library t.name.text t.source = .ok template ∧
      Compiled helpers t template := by
  unfold compileFailures at h
  cases hs : Template.ofSource library t.name.text t.source with
  | error fault =>
    rw [hs] at h
    exact absurd h (List.cons_ne_nil _ _)
  | ok template =>
    rw [hs] at h
    cases hu : firstUnbound? order helpers.isBound t.name.text template.nodes with
    | some f =>
      dsimp only at h
      rw [hu] at h
      exact absurd h (List.cons_ne_nil _ _)
    | none =>
      obtain ⟨name, read⟩ := Template.ofSource_eq_ok_iff.mp hs
      refine ⟨template, rfl, name, ⟨library, read⟩, fun f hf => ?_⟩
      exact firstUnbound?_eq_none.mp hu f (mem_callsOfNodes_iff.mp hf)

theorem Paired.concat {ts : List ComposedTemplate} {t : ComposedTemplate} (h : Paired helpers ts)
    (ht : compileFailures order helpers (libraryOf ts) t = []) : Paired helpers (ts ++ [t]) := by
  obtain ⟨template, hs, compiled⟩ := compiled_of_compileFailures ht
  intro name
  rw [tableOf_concat, libraryOf_concat hs, Sorted.lookup_insert, Sorted.lookup_insert]
  split
  · exact .some compiled
  · exact h name

theorem paired_of_pairFailures :
    ∀ {ts earlier : List ComposedTemplate}, Paired helpers earlier →
      pairFailures order helpers earlier ts = [] → Paired helpers (earlier ++ ts)
  | [], earlier, h, _ => by rwa [List.append_nil]
  | t :: ts, earlier, h, hnone => by
    obtain ⟨ht, hts⟩ := List.append_eq_nil_iff.mp hnone
    have hp := paired_of_pairFailures (h.concat (List.append_eq_nil_iff.mp ht).2) hts
    rwa [List.append_assoc, List.singleton_append] at hp

end

/-! ## Registries -/

structure WellMade (v : ViewLayout) (helpers : Helpers) (r : Registry) : Prop where
  compiled : ∀ name, Option.Rel (Compiled helpers) (r.lookup name) (r.engine.library.lookup name)
  named : ∀ {name t}, r.lookup name = some t → t.name.text = name
  helpers : r.engine.helper? = helpers.get?
  escaped : r.engine.escaped = v.escaped

theorem wellMade_of_compose {order : WalkOrder} {source : ViewSource} {v : ViewLayout}
    {helpers : Helpers} {r : Registry}
    (h : (compose order source v helpers).run.1 = .ok r) : WellMade v helpers r := by
  obtain ⟨good, rfl⟩ := compose_ok h
  exact {
    compiled := paired_of_pairFailures paired_nil good.pairs
    named := fun hl => (good.distinct.mem_tableOf.mp (Sorted.mem_of_lookup hl)).2
    helpers := rfl
    escaped := rfl }

theorem lookup_of_compose {order : WalkOrder} {source : ViewSource} {v : ViewLayout}
    {helpers : Helpers} {r : Registry} {t : ComposedTemplate}
    (h : (compose order source v helpers).run.1 = .ok r) (ht : t ∈ pairsOf source v) :
    r.lookup t.name.text = some t := by
  obtain ⟨good, rfl⟩ := compose_ok h
  exact Sorted.lookup_of_mem (Sorted.ascending_ofList _) (good.distinct.mem_tableOf.mpr ⟨ht, rfl⟩)

theorem WellMade.of_library {v : ViewLayout} {helpers : Helpers} {r : Registry} {name : String}
    {template : Template} (h : WellMade v helpers r)
    (hl : r.engine.library.lookup name = some template) :
    ∃ t, r.lookup name = some t ∧ Compiled helpers t template := by
  have hc := h.compiled name
  rw [hl] at hc
  generalize r.lookup name = t at hc ⊢
  cases hc with
  | some compiled => exact ⟨_, rfl, compiled⟩

theorem WellMade.of_lookup {v : ViewLayout} {helpers : Helpers} {r : Registry} {name : String}
    {t : ComposedTemplate} (h : WellMade v helpers r) (hl : r.lookup name = some t) :
    ∃ template, r.engine.library.lookup name = some template ∧ Compiled helpers t template := by
  have hc := h.compiled name
  rw [hl] at hc
  generalize r.engine.library.lookup name = template at hc ⊢
  cases hc with
  | some compiled => exact ⟨_, rfl, compiled⟩

/-! ## Escaping -/

theorem dropEnd?_nil (s : List Char) : (Text.dropEnd? [] s).isSome :=
  Option.isSome_iff_exists.mpr ⟨s, Text.dropEnd?_eq_some_iff.mpr (List.append_nil s).symm⟩

theorem WellMade.escapes {v : ViewLayout} {helpers : Helpers} {r : Registry}
    (h : WellMade v helpers r) (name : String) : r.engine.escapes name = v.autoescape := by
  unfold Engine.escapes
  rw [h.escaped, ViewLayout.escaped]
  cases v.autoescape with
  | false => rfl
  | true => simpa using dropEnd?_nil name.toList

end ViewWeave
