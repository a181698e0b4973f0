import ViewWeave.Proofs.Compose.Failures

/-!
# What composition sees of a source

Composition sees which fragments are found under the three roots, and what is read of these. Two
sources that agree on that are composed alike, step by step.
-/

namespace ViewWeave

theorem Build.bind_congr {α β : Type} {m : Build α} {k k' : α → Build β}
    (h : ∀ a, m.result = .ok a → k a = k' a) : m >>= k = m >>= k' := by
  show m.andThen k = m.andThen k'
  unfold andThen
  cases hm : m.result with
  | ok a =>
    dsimp only
    rw [h a hm]
  | error e => rfl

section
variable {a b : ViewSource} {v : ViewLayout}

theorem ViewSource.read_congr {x : String} (h : a.read x = b.read x) :
    a.text x = b.text x ∧ a.readFailures x = b.readFailures x := by
  unfold text readFailures
  rw [h]
  exact ⟨rfl, rfl⟩

theorem namedFragments_congr {paths : List String} (reads : ∀ x ∈ paths, a.read x = b.read x)
    (role : Role) :
    namedFragments a v role paths = namedFragments b v role paths := by
  have named : ∀ x ∈ paths, namedFragment a v role x = namedFragment b v role x := by
    intro x hx
    unfold namedFragment
    rw [(ViewSource.read_congr (reads x hx)).1]
  have failures := List.flatMap_congr fun x hx => (ViewSource.read_congr (reads x hx)).2
  rw [namedFragments_eq_verdict, namedFragments_eq_verdict, List.map_congr_left named, failures]

theorem contents_congr {paths : List String} (reads : ∀ x ∈ paths, a.read x = b.read x) :
    paths.mapM a.content = paths.mapM b.content := by
  have texts := List.map_congr_left fun x hx => (ViewSource.read_congr (reads x hx)).1
  have failures := List.flatMap_congr fun x hx => (ViewSource.read_congr (reads x hx)).2
  rw [mapM_verdict fun x _ => a.content_eq_verdict x,
    mapM_verdict fun x _ => b.content_eq_verdict x, texts, failures]

/-- Sources in which the same fragments are found and read alike are composed alike. -/
theorem compose_congr
    (found : ∀ role, a.fragments (v.root role) v.fragmentExtension =
      b.fragments (v.root role) v.fragmentExtension)
    (reads : ∀ role, ∀ x ∈ files a v role, a.read x = b.read x) (order : WalkOrder)
    (helpers : Helpers) :
    compose order a v helpers = compose order b v helpers := by
  have scans (role : Role) : scan b (v.root role) role v.fragmentExtension =
      scan a (v.root role) role v.fragmentExtension := by
    unfold scan
    rw [found role]
  unfold compose
  dsimp only
  rw [scans .layout, scans .page, scans .shared]
  refine Build.bind_congr fun layouts hl => Build.bind_congr fun pages hp =>
    Build.bind_congr fun shared hs => ?_
  obtain ⟨-, rfl⟩ := scan_ok_iff.mp hl
  obtain ⟨-, rfl⟩ := scan_ok_iff.mp hp
  obtain ⟨-, rfl⟩ := scan_ok_iff.mp hs
  rw [namedFragments_congr (reads .layout), namedFragments_congr (reads .page),
    contents_congr (reads .shared)]

end

end ViewWeave
