import ViewWeave.Proofs.Compose.Checks
import ViewWeave.Proofs.Text.ByteOrder

/-!
# Why there is no registry

All failures of all checks of composition in one list, in the order in which composition checks.
There is a registry just if the list is empty, and else the first failure is the one that is told.
-/

namespace ViewWeave

/-! ## Pairs -/

/-- The templates of the pairs composed so far; a text that is refused is left out. -/
def libraryOf (earlier : List ComposedTemplate) : Library :=
  earlier.foldl (fun library t =>
    match Template.ofSource library t.name.text t.source with
    | .ok template => Sorted.insert t.name.text template library
    | .error _ => library) []

def tableOf (earlier : List ComposedTemplate) : List (String × ComposedTemplate) :=
  Sorted.ofList (earlier.map fun t => (t.name.text, t))

/-- The failure of a name that an earlier pair has, told with both pairs. -/
def duplicateFailures (earlier : List ComposedTemplate) (t : ComposedTemplate) : List InitError :=
  match earlier.find? fun s => s.name.text = t.name.text with
  | some first => [.duplicateName t.name.text first.origin t.origin]
  | none => []

/-- The failure of a text that is no template, or that calls a function that is not bound. -/
def compileFailures (order : WalkOrder) (helpers : Helpers) (library : Library)
    (t : ComposedTemplate) : List InitError :=
  match Template.ofSource library t.name.text t.source with
  | .error fault => [.compile t.name.text t.label fault]
  | .ok template =>
    match firstUnbound? order helpers.isBound t.name.text template.nodes with
    | some f => [.unboundFunction t.name.text f]
    | none => []

def pairFailures (order : WalkOrder) (helpers : Helpers) (earlier : List ComposedTemplate) :
    List ComposedTemplate → List InitError
  | [] => []
  | t :: ts =>
    duplicateFailures earlier t ++ compileFailures order helpers (libraryOf earlier) t ++
      pairFailures order helpers (earlier ++ [t]) ts

def Distinct (ts : List ComposedTemplate) : Prop := (ts.map fun t => t.name.text).Nodup

theorem distinct_nil : Distinct [] := List.Pairwise.nil

theorem Distinct.tableOf_perm {ts : List ComposedTemplate} (h : Distinct ts) :
    (tableOf ts).Perm (ts.map fun t => (t.name.text, t)) := by
  refine Sorted.ofList_perm ?_
  rw [List.map_map]
  exact h

theorem Distinct.mem_tableOf {ts : List ComposedTemplate} (h : Distinct ts)
    {name : String} {t : ComposedTemplate} :
    (name, t) ∈ tableOf ts ↔ t ∈ ts ∧ t.name.text = name := by
  rw [h.tableOf_perm.mem_iff, List.mem_map]
  constructor
  · rintro ⟨s, hs, heq⟩
    cases heq
    exact ⟨hs, rfl⟩
  · rintro ⟨ht, rfl⟩
    exact ⟨t, ht, rfl⟩

theorem Distinct.lookup_tableOf {ts : List ComposedTemplate} (h : Distinct ts) (name : String) :
    (tableOf ts).lookup name = ts.find? fun t => t.name.text = name := by
  cases hf : ts.find? fun t => t.name.text = name with
  | none =>
    rw [List.find?_eq_none] at hf
    rw [Sorted.lookup_eq_none_iff, (h.tableOf_perm.map _).mem_iff, List.map_map]
    rintro hmem
    obtain ⟨t, ht, rfl⟩ := List.mem_map.mp hmem
    exact hf t ht (decide_eq_true rfl)
  | some t =>
    have hname : t.name.text = name := by simpa using List.find?_some hf
    exact Sorted.lookup_of_mem (Sorted.ascending_ofList _)
      (h.mem_tableOf.mpr ⟨List.mem_of_find?_eq_some hf, hname⟩)

theorem Distinct.concat {ts : List ComposedTemplate} {t : ComposedTemplate} (h : Distinct ts)
    (ht : duplicateFailures ts t = []) : Distinct (ts ++ [t]) := by
  unfold duplicateFailures at ht
  cases hf : ts.find? fun s => s.name.text = t.name.text with
  | some first =>
    rw [hf] at ht
    exact absurd ht (List.cons_ne_nil _ _)
  | none =>
    rw [List.find?_eq_none] at hf
    unfold Distinct
    rw [List.map_append, List.nodup_append]
    refine ⟨h, List.pairwise_singleton _ _, fun n hn m hm heq => ?_⟩
    obtain ⟨s, hs, rfl⟩ := List.mem_map.mp hn
    exact hf s hs (decide_eq_true (heq.trans (List.mem_singleton.mp hm)))

theorem tableOf_concat (ts : List ComposedTemplate) (t : ComposedTemplate) :
    tableOf (ts ++ [t]) = Sorted.insert t.name.text t (tableOf ts) := by
  unfold tableOf
  rw [List.map_append, List.map_singleton, Sorted.ofList_concat]

theorem libraryOf_concat {ts : List ComposedTemplate} {t : ComposedTemplate} {template : Template}
    (h : Template.ofSource (libraryOf ts) t.name.text t.source = .ok template) :
    libraryOf (ts ++ [t]) = Sorted.insert t.name.text template (libraryOf ts) := by
  show (ts ++ [t]).foldl _ [] = _
  rw [List.foldl_append]
  show (match Template.ofSource (libraryOf ts) t.name.text t.source with
    | .ok template => Sorted.insert t.name.text template (libraryOf ts)
    | .error _ => libraryOf ts) = _
  rw [h]

def composedOf (ts : List ComposedTemplate) : Composed := ⟨tableOf ts, libraryOf ts⟩

theorem result_add (order : WalkOrder) (helpers : Helpers) {ts : List ComposedTemplate}
    (h : Distinct ts) (t : ComposedTemplate) :
    ((composedOf ts).add order helpers t).result =
      verdict (duplicateFailures ts t ++ compileFailures order helpers (libraryOf ts) t)
        (composedOf (ts ++ [t])) := by
  unfold Composed.add
  rw [Build.result_bind, Build.result_ofExcept]
  simp only [Build.result_log, Build.result_pure]
  unfold Composed.compile compileOne duplicateFailures compileFailures composedOf
  dsimp only
  rw [h.lookup_tableOf]
  cases ts.find? fun s => s.name.text = t.name.text with
  | some first => rfl
  | none =>
    cases hs : Template.ofSource (libraryOf ts) t.name.text t.source with
    | error fault => rfl
    | ok template =>
      simp only [Except.mapError, List.nil_append]
      show (match firstUnbound? order helpers.isBound t.name.text template.nodes with
        | some f => _
        | none => _) >>= _ = _
      cases firstUnbound? order helpers.isBound t.name.text template.nodes with
      | some f => rfl
      | none =>
        rw [libraryOf_concat hs, tableOf_concat]
        rfl

/-- **Pairs.** Composing pairs one after the other ends in the first failure, or in all of them
composed. -/
theorem result_foldlM_add (order : WalkOrder) (helpers : Helpers) :
    ∀ (ts : List ComposedTemplate) {earlier : List ComposedTemplate}, Distinct earlier →
      (ts.foldlM (Composed.add order helpers) (composedOf earlier)).result =
        verdict (pairFailures order helpers earlier ts) (composedOf (earlier ++ ts))
  | [], earlier, _ => by
    rw [List.append_nil]
    rfl
  | t :: ts, earlier, h => by
    rw [List.foldlM_cons, Build.result_bind, result_add order helpers h]
    refine verdict_bind fun hnone => ?_
    -- without failures the names still differ, so the next pair can be looked up
    have hd := h.concat (List.append_eq_nil_iff.mp hnone).1
    rw [result_foldlM_add order helpers ts hd, List.append_assoc, List.singleton_append]

theorem distinct_of_pairFailures {order : WalkOrder} {helpers : Helpers} :
    ∀ {ts earlier : List ComposedTemplate}, Distinct earlier →
    pairFailures order helpers earlier ts = [] →
      Distinct (earlier ++ ts)
  | [], earlier, h, _ => by rwa [List.append_nil]
  | t :: ts, earlier, h, hnone => by
    obtain ⟨ht, hts⟩ := List.append_eq_nil_iff.mp hnone
    have hd := distinct_of_pairFailures (h.concat (List.append_eq_nil_iff.mp ht).1) hts
    rwa [List.append_assoc, List.singleton_append] at hd

/-! ## View trees -/

def ViewLayout.rootPath (v : ViewLayout) (role : Role) : String :=
  String.ofList (Text.trimOf '/' (v.root role).toList)

section
variable (order : WalkOrder) (source : ViewSource) (v : ViewLayout) (helpers : Helpers)

def rootFailures (role : Role) : List InitError :=
  source.listFailures source.depth (v.rootPath role)

def files (role : Role) : List String :=
  source.found v.fragmentExtension source.depth (v.rootPath role)

theorem fragments_eq_verdict (role : Role) : source.fragments (v.root role) v.fragmentExtension =
    verdict (rootFailures source v role) (files source v role) :=
  source.fragmentsIn_eq_verdict _ _ _

theorem scan_result (role : Role) :
    (scan source (v.root role) role v.fragmentExtension).result =
      verdict (rootFailures source v role) (files source v role) := by
  unfold scan
  rw [Build.result_bind, Build.result_ofExcept]
  simp only [Build.result_log, Build.result_pure]
  show source.fragments (v.root role) v.fragmentExtension >>= pure = _
  rw [bind_pure, fragments_eq_verdict]

/-- The failures of the names of a role's files, and then those of reading the files. -/
def fileFailures (role : Role) : List InitError :=
  (files source v role).flatMap (v.nameFailures role) ++
    (files source v role).flatMap source.readFailures

section
variable {source v} {role : Role}

theorem scan_ok_iff {paths : List String} :
    (scan source (v.root role) role v.fragmentExtension).run.1 = .ok paths ↔
      rootFailures source v role = [] ∧ files source v role = paths := by
  show (scan source (v.root role) role v.fragmentExtension).result = _ ↔ _
  rw [scan_result]
  exact verdict_eq_ok

theorem file_of_fileFailures (h : fileFailures source v role = []) {path : String}
    (hp : path ∈ files source v role) :
    v.short? role path = some (v.short role path) ∧ source.read path = .ok (source.text path) := by
  obtain ⟨names, reads⟩ := List.append_eq_nil_iff.mp h
  exact ⟨v.short?_eq_short (List.flatMap_eq_nil_iff.mp names path hp),
    source.read_eq_text (List.flatMap_eq_nil_iff.mp reads path hp)⟩

end

def pairsOf : List ComposedTemplate :=
  pairs (String.join ((files source v .shared).map source.text))
    ((files source v .layout).map (namedFragment source v .layout))
    ((files source v .page).map (namedFragment source v .page))

def failures : List InitError :=
  rootFailures source v .layout ++ rootFailures source v .page ++ rootFailures source v .shared ++
    fileFailures source v .layout ++ fileFailures source v .page ++
    (files source v .shared).flatMap source.readFailures ++ helpers.failures ++
    pairFailures order helpers [] (pairsOf source v)

def registryOf (ts : List ComposedTemplate) : Registry :=
  ⟨tableOf ts, libraryOf ts, helpers.get?, v.escaped⟩

theorem compose_result :
    (compose order source v helpers).result =
      verdict (failures order source v helpers) (registryOf v helpers (pairsOf source v)) := by
  unfold compose failures
  simp only [List.append_assoc]
  rw [Build.result_bind, scan_result]
  refine verdict_bind fun _ => ?_
  rw [Build.result_bind, scan_result]
  refine verdict_bind fun _ => ?_
  rw [Build.result_bind, scan_result]
  refine verdict_bind fun _ => ?_
  rw [Build.result_bind, Build.result_ofExcept, namedFragments_eq_verdict]
  refine verdict_bind fun _ => ?_
  rw [Build.result_bind, Build.result_ofExcept, namedFragments_eq_verdict]
  refine verdict_bind fun _ => ?_
  rw [Build.result_bind, Build.result_ofExcept,
    mapM_verdict fun path _ => source.content_eq_verdict path]
  refine verdict_bind fun _ => ?_
  rw [Build.result_bind, Build.result_ofExcept, helpers.check_eq_verdict]
  refine verdict_bind fun _ => ?_
  rw [Build.result_bind]
  simp only [Build.result_log, Build.result_pure]
  -- the fold starts from what is composed after no pairs
  rw [show (⟨[], []⟩ : Composed) = composedOf [] from rfl,
    result_foldlM_add order helpers _ distinct_nil]
  exact verdict_map _

theorem compose_error_iff {e : InitError} :
    (compose order source v helpers).run.1 = .error e ↔
      (failures order source v helpers).head? = some e := by
  show (compose order source v helpers).result = _ ↔ _
  rw [compose_result]
  exact verdict_eq_error

/-- **The first failure.** There is a registry just if no check fails; else the error is the failure
of the first check that fails. What fails first is a directory that is reached from a root and
cannot be listed, or one that lies deeper than any; the least name of a helper is checked first. -/
theorem compose_first_failure :
    ((∃ r, (compose order source v helpers).run.1 = .ok r) ↔ failures order source v helpers = []) ∧
      (∀ e, (compose order source v helpers).run.1 = .error e ↔
        (failures order source v helpers).head? = some e) ∧
      (∀ role f, f ∈ rootFailures source v role ↔
        (∃ k < source.depth, ∃ dir e,
          source.Nested k (v.rootPath role) dir ∧ source.list dir = .error e ∧ f = .io dir e) ∨
        ∃ dir, source.Nested source.depth (v.rootPath role) dir ∧ f = .io dir .endless) ∧
      helpers.names.Pairwise fun m n => Text.utf8 m < Text.utf8 n := by
  refine ⟨?_, fun e => compose_error_iff order source v helpers,
    fun role f => source.mem_listFailures_iff, helpers.names_ascending.imp Text.utf8_lt_utf8⟩
  show (∃ r, (compose order source v helpers).result = _) ↔ _
  rw [compose_result]
  simp only [verdict_eq_ok]
  exact ⟨fun ⟨_, h, _⟩ => h, fun h => ⟨_, h, rfl⟩⟩

end

/-! ## Composition without failures -/

structure Flawless (order : WalkOrder) (source : ViewSource) (v : ViewLayout) (helpers : Helpers) :
    Prop where
  roots : ∀ role, rootFailures source v role = []
  fragments : ∀ {role}, role ≠ .shared → fileFailures source v role = []
  shared : (files source v .shared).flatMap source.readFailures = []
  pairs : pairFailures order helpers [] (pairsOf source v) = []

section
variable {order : WalkOrder} {source : ViewSource} {v : ViewLayout} {helpers : Helpers}
  {r : Registry}

theorem flawless_of_failures (h : failures order source v helpers = []) :
    Flawless order source v helpers := by
  unfold failures at h
  simp only [List.append_eq_nil_iff] at h
  obtain ⟨⟨⟨⟨⟨⟨⟨hl, hp⟩, hs⟩, layouts⟩, pages⟩, shared⟩, -⟩, pairs⟩ := h
  refine ⟨fun role => ?roots, fun {role} hr => ?fragments, shared, pairs⟩
  case roots =>
    cases role with
    | layout => exact hl
    | page => exact hp
    | shared => exact hs
  case fragments =>
    cases role with
    | layout => exact layouts
    | page => exact pages
    | shared => exact absurd rfl hr

theorem compose_of_failures (h : (failures order source v helpers).isEmpty) :
    (compose order source v helpers).run.1 = .ok (registryOf v helpers (pairsOf source v)) := by
  show (compose order source v helpers).result = _
  rw [compose_result, List.isEmpty_iff.mp h]
  rfl

theorem compose_ok (h : (compose order source v helpers).run.1 = .ok r) :
    Flawless order source v helpers ∧ r = registryOf v helpers (pairsOf source v) := by
  have hr : (compose order source v helpers).result = .ok r := h
  rw [compose_result] at hr
  obtain ⟨hf, rfl⟩ := verdict_eq_ok.mp hr
  exact ⟨flawless_of_failures hf, rfl⟩

namespace Flawless

theorem distinct (h : Flawless order source v helpers) : Distinct (pairsOf source v) :=
  distinct_of_pairFailures distinct_nil h.pairs

theorem scan (h : Flawless order source v helpers) (role : Role) :
    (ViewWeave.scan source (v.root role) role v.fragmentExtension).run.1 =
      .ok (files source v role) :=
  scan_ok_iff.mpr ⟨h.roots role, rfl⟩

theorem file (h : Flawless order source v helpers) {role : Role} (hr : role ≠ .shared)
    {path : String} (hp : path ∈ files source v role) :
    v.short? role path = some (v.short role path) ∧ source.read path = .ok (source.text path) :=
  file_of_fileFailures (h.fragments hr) hp

theorem sharedRead (h : Flawless order source v helpers) {path : String}
    (hp : path ∈ files source v .shared) : source.read path = .ok (source.text path) :=
  source.read_eq_text (List.flatMap_eq_nil_iff.mp h.shared path hp)

end Flawless

end

end ViewWeave
