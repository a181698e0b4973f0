import ViewWeave.Proofs.Compose.Entries

/-!
# What composition logs

The log tells what was done: each root that was scanned to its end, each pair that was composed, and
at last the registry. What fails is not logged, and neither is anything after it.
-/

namespace ViewWeave

def Role.all : List Role := [.layout, .page, .shared]

def scanEvent (v : ViewLayout) (found : Role → List String) (role : Role) : LogEvent :=
  .scanned role (v.root role) (found role).length

def pairEvent (t : ComposedTemplate) : LogEvent := .composed t.name.text (Text.utf8 t.source).length

def entriesOf (source : ViewSource) (v : ViewLayout) (found : Role → List String) :
    List ComposedTemplate :=
  (found .layout ×ˢ found .page).map fun lp =>
    entryOf (v.short .layout) (v.short .page) source.text (found .shared) lp.1 lp.2

/-- The failures of the checks that are made once all roots are scanned, before the first pair. -/
def fragmentFailures (source : ViewSource) (v : ViewLayout) (helpers : Helpers) : List InitError :=
  fileFailures source v .layout ++ fileFailures source v .page ++
    (files source v .shared).flatMap source.readFailures ++ helpers.failures

def ownFailures (order : WalkOrder) (helpers : Helpers) (earlier : List ComposedTemplate)
    (t : ComposedTemplate) : List InitError :=
  duplicateFailures earlier t ++ compileFailures order helpers (libraryOf earlier) t

def Scans (source : ViewSource) (v : ViewLayout) (role : Role) (found : List String) : Prop :=
  (scan source (v.root role) role v.fragmentExtension).run.1 = .ok found

/-- How composition ends, and what it has logged by then. -/
inductive Journal (order : WalkOrder) (source : ViewSource) (v : ViewLayout) (helpers : Helpers) :
    Except InitError Registry × List LogEvent → Prop
  | ready {found : Role → List String} {r : Registry} :
    (∀ role, Scans source v role (found role)) →
    (∀ t ∈ entriesOf source v found, r.lookup t.name.text = some t) →
    r.size = (found .layout).length * (found .page).length →
    Journal order source v helpers (.ok r,
      Role.all.map (scanEvent v found) ++ (entriesOf source v found).map pairEvent ++
        [.ready (found .layout).length (found .page).length (found .shared).length r.size])
  | unscanned {found : Role → List String} {before after : List Role} {role : Role}
    {e : InitError} :
    Role.all = before ++ role :: after →
    (∀ b ∈ before, Scans source v b (found b)) →
    (scan source (v.root role) role v.fragmentExtension).run.1 = .error e →
    Journal order source v helpers (.error e, before.map (scanEvent v found))
  | unread {found : Role → List String} {e : InitError} :
    (∀ role, Scans source v role (found role)) →
    (fragmentFailures source v helpers).head? = some e →
    Journal order source v helpers (.error e, Role.all.map (scanEvent v found))
  | unpaired {found : Role → List String} {before after : List ComposedTemplate}
    {t : ComposedTemplate} {e : InitError} :
    (∀ role, Scans source v role (found role)) →
    fragmentFailures source v helpers = [] →
    entriesOf source v found = before ++ t :: after →
    pairFailures order helpers [] before = [] →
    (ownFailures order helpers before t).head? = some e →
    Journal order source v helpers
      (.error e, Role.all.map (scanEvent v found) ++ before.map pairEvent)

/-! ## Pairs -/

theorem run_add (order : WalkOrder) (helpers : Helpers) {ts : List ComposedTemplate}
    (h : Distinct ts) (t : ComposedTemplate) :
    ownFailures order helpers ts t = [] ∧
        ((composedOf ts).add order helpers t).run = (.ok (composedOf (ts ++ [t])), [pairEvent t]) ∨
      ∃ e, (ownFailures order helpers ts t).head? = some e ∧
        ((composedOf ts).add order helpers t).run = (.error e, []) := by
  have ends : ((composedOf ts).add order helpers t).run.1 = verdict (ownFailures order helpers ts t)
      (composedOf (ts ++ [t])) :=
    result_add order helpers h t
  have logs : ((composedOf ts).add order helpers t).run.2 =
      match ((composedOf ts).add order helpers t).run.1 with
      | .ok _ => [pairEvent t]
      | .error _ => [] := by
    unfold Composed.add
    cases (composedOf ts).compile order helpers t <;> rfl
  rw [ends] at logs
  cases own : ownFailures order helpers ts t with
  | nil =>
    rw [own] at ends logs
    exact .inl ⟨rfl, Prod.ext ends logs⟩
  | cons e rest =>
    rw [own] at ends logs
    exact .inr ⟨e, rfl, Prod.ext ends logs⟩

/-- **The loop over the pairs.** It logs the pairs before the first one that fails, or all of
them. -/
theorem run_foldlM_add (order : WalkOrder) (helpers : Helpers) :
    ∀ (ts : List ComposedTemplate) {earlier : List ComposedTemplate}, Distinct earlier →
      pairFailures order helpers earlier ts = [] ∧
          (ts.foldlM (Composed.add order helpers) (composedOf earlier)).run =
            (.ok (composedOf (earlier ++ ts)), ts.map pairEvent) ∨
        ∃ before t after e, ts = before ++ t :: after ∧
        pairFailures order helpers earlier before = [] ∧
          (ownFailures order helpers (earlier ++ before) t).head? = some e ∧
            (ts.foldlM (Composed.add order helpers) (composedOf earlier)).run =
              (.error e, before.map pairEvent)
  | [], earlier, _ => by
    left
    rw [List.append_nil]
    exact ⟨rfl, rfl⟩
  | t :: ts, earlier, h => by
    rw [List.foldlM_cons]
    rcases run_add order helpers h t with ⟨own, run⟩ | ⟨e, own, run⟩
    · have distinct := h.concat (List.append_eq_nil_iff.mp own).1
      have own_append (rest : List ComposedTemplate) :
          pairFailures order helpers earlier (t :: rest) =
          pairFailures order helpers (earlier ++ [t]) rest := by
        show ownFailures order helpers earlier t ++ _ = _
        rw [own, List.nil_append]
      rw [Build.run_bind_ok run]
      rcases run_foldlM_add order helpers ts distinct with ⟨none, all⟩ |
        ⟨before, u, after, e, split, none, first, stop⟩
      · left
        rw [own_append, all, List.append_assoc]
        exact ⟨none, rfl⟩
      · right
        refine ⟨t :: before, u, after, e, ?_, ?_, ?_, ?_⟩
        · rw [split, List.cons_append]
        · rw [own_append]
          exact none
        · rwa [List.append_assoc] at first
        · rw [stop]
          rfl
    · right
      refine ⟨[], t, ts, e, rfl, rfl, ?_, Build.run_bind_error run _⟩
      rwa [List.append_nil]

/-! ## Roots -/

section
variable (order : WalkOrder) (source : ViewSource) (v : ViewLayout) (helpers : Helpers)

theorem scan_cases (role : Role) :
    (∃ e, (scan source (v.root role) role v.fragmentExtension).run = (.error e, [])) ∨
      (scan source (v.root role) role v.fragmentExtension).run =
        (.ok (files source v role), [scanEvent v (files source v) role]) := by
  unfold scan
  rw [fragments_eq_verdict]
  rcases Build.run_verdict_bind (rootFailures source v role) (files source v role) _ with
    ⟨-, run⟩ | ⟨e, -, run⟩
  · right
    rw [run]
    rfl
  · left
    exact ⟨e, run⟩

theorem entriesOf_files : entriesOf source v (files source v) = pairsOf source v :=
  pairsOf_eq_product.symm

/-- The checks between the scans and the first pair are one check, which logs nothing. -/
theorem fragments_bind {α : Type} (k : List NamedFragment → List NamedFragment → List String →
    Build α) :
    (do
      let layouts ← Build.ofExcept (namedFragments source v .layout (files source v .layout))
      let pages ← Build.ofExcept (namedFragments source v .page (files source v .page))
      let shared ← Build.ofExcept ((files source v .shared).mapM source.content)
      Build.ofExcept helpers.check
      k layouts pages shared) =
    (do
      Build.ofExcept (verdict (fragmentFailures source v helpers) ())
      k ((files source v .layout).map (namedFragment source v .layout))
        ((files source v .page).map (namedFragment source v .page))
        ((files source v .shared).map source.text)) := by
  unfold fragmentFailures fileFailures
  rw [namedFragments_eq_verdict, namedFragments_eq_verdict, helpers.check_eq_verdict,
    mapM_verdict fun path _ => source.content_eq_verdict path]
  rw [List.append_assoc, List.append_assoc]
  refine Build.verdict_bind ?_
  refine Build.verdict_bind ?_
  refine Build.verdict_bind ?_
  rfl

section
variable {order source v helpers} (scanned : ∀ role, Scans source v role (files source v role))
include scanned

theorem journal_of_fragments (read : fragmentFailures source v helpers = []) :
    Journal order source v helpers (Prod.map id (Role.all.map (scanEvent v (files source v)) ++ ·)
      (do
        let done ← (pairsOf source v).foldlM (Composed.add order helpers) (composedOf [])
        Build.log (.ready ((files source v .layout).map (namedFragment source v .layout)).length
          ((files source v .page).map (namedFragment source v .page)).length
          (files source v .shared).length
          done.templates.length)
        return ⟨done.templates, ⟨done.library, helpers.get?, v.escaped⟩⟩ :
          Build Registry).run) := by
  rcases run_foldlM_add order helpers (pairsOf source v) distinct_nil with
    ⟨none, run⟩ | ⟨before, t, after, e, split, none, first, run⟩
  · have distinct : Distinct (pairsOf source v) := distinct_of_pairFailures distinct_nil none
    have stored : ∀ t ∈ entriesOf source v (files source v),
        (registryOf v helpers (pairsOf source v)).lookup t.name.text = some t := by
      intro t ht
      rw [entriesOf_files] at ht
      exact distinct.lookup_registryOf.mpr ⟨ht, rfl⟩
    have size : (registryOf v helpers (pairsOf source v)).size =
        (files source v .layout).length * (files source v .page).length := by
      rw [distinct.size_registryOf, length_pairsOf]
    rw [Build.run_bind_ok run, List.length_map, List.length_map]
    have ready : Journal order source v helpers _ := .ready scanned stored size
    rw [entriesOf_files, List.append_assoc] at ready
    exact ready
  · rw [Build.run_bind_error run]
    exact .unpaired scanned read ((entriesOf_files source v).trans split) none first

end

theorem compose_journaled :
    Journal order source v helpers (compose order source v helpers).run := by
  unfold compose
  dsimp only
  have scans {role : Role} {events : List LogEvent}
    (h : (scan source (v.root role) role v.fragmentExtension).run =
      (.ok (files source v role), events)) :
      Scans source v role (files source v role) := congrArg Prod.fst h
  rcases scan_cases source v .layout with ⟨e, l⟩ | l
  · rw [Build.run_bind_error l]
    show Journal order source v helpers (.error e, List.map (scanEvent v (files source v)) [])
    refine .unscanned rfl ?_ (congrArg Prod.fst l)
    intro b hb
    cases hb
  rw [Build.run_bind_ok l]
  rcases scan_cases source v .page with ⟨e, p⟩ | p
  · rw [Build.run_bind_error p]
    show Journal order source v helpers
      (.error e, List.map (scanEvent v (files source v)) [.layout])
    refine .unscanned rfl ?_ (congrArg Prod.fst p)
    simpa using scans l
  rw [Build.run_bind_ok p]
  rcases scan_cases source v .shared with ⟨e, s⟩ | s
  · rw [Build.run_bind_error s]
    show Journal order source v helpers
      (.error e, List.map (scanEvent v (files source v)) [.layout, .page])
    refine .unscanned rfl ?_ (congrArg Prod.fst s)
    simpa using ⟨scans l, scans p⟩
  rw [Build.run_bind_ok s, fragments_bind]
  have scanned : ∀ role, Scans source v role (files source v role)
    | .layout => scans l
    | .page => scans p
    | .shared => scans s
  rcases Build.run_verdict_bind (fragmentFailures source v helpers) () _ with ⟨read, run⟩ |
    ⟨e, first, run⟩
  · rw [run]
    exact journal_of_fragments scanned read
  · rw [run]
    exact .unread scanned first

/-! ## Levels -/

section
variable {order source v helpers} {log : List LogEvent}

theorem level_pairEvents (ts : List ComposedTemplate) :
    (ts.map pairEvent).map LogEvent.level = List.replicate ts.length "DEBUG" := by
  rw [List.map_map]
  exact List.map_const'

theorem Journal.levels {r : Registry} (h : Journal order source v helpers (.ok r, log)) :
    log.map LogEvent.level = List.replicate (3 + r.size) "DEBUG" ++ ["INFO"] := by
  cases h with
  | @ready found _ _ _ size =>
    have entries : (entriesOf source v found).length = r.size := by
      unfold entriesOf
      rw [List.length_map, List.length_product, size]
    rw [List.map_append, List.map_append, level_pairEvents, entries, List.replicate_add]
    rfl

theorem Journal.level {e : InitError} (h : Journal order source v helpers (.error e, log)) :
    ∀ event ∈ log, event.level = "DEBUG" := by
  have scans (found : Role → List String) (roles : List Role) :
      ∀ event ∈ roles.map (scanEvent v found), event.level = "DEBUG" := by
    intro event hevent
    obtain ⟨role, -, rfl⟩ := List.mem_map.mp hevent
    rfl
  cases h with
  | @unscanned found before => exact scans found before
  | @unread found => exact scans found Role.all
  | @unpaired found before =>
    intro event hevent
    rcases List.mem_append.mp hevent with hevent | hevent
    · exact scans found Role.all event hevent
    · obtain ⟨t, -, rfl⟩ := List.mem_map.mp hevent
      rfl

end

/-- **The log.** Composition logs a root once it is scanned to its end, a pair once it is composed,
and a summary just if it ends in a registry. -/
theorem compose_journal :
    Journal order source v helpers (compose order source v helpers).run ∧
      (∀ r, (compose order source v helpers).run.1 = .ok r →
        (compose order source v helpers).run.2.map LogEvent.level =
          List.replicate (3 + r.size) "DEBUG" ++ ["INFO"]) ∧
      ∀ e, (compose order source v helpers).run.1 = .error e →
        ∀ event ∈ (compose order source v helpers).run.2, event.level = "DEBUG" := by
  have journal := compose_journaled order source v helpers
  refine ⟨journal, fun r hr => ?_, fun e he => ?_⟩
  · have ended : Journal order source v helpers
        (.ok r, (compose order source v helpers).run.2) := by
      rwa [← hr]
    exact ended.levels
  · have ended : Journal order source v helpers
        (.error e, (compose order source v helpers).run.2) := by
      rwa [← he]
    exact ended.level

end

/-- Of two pages the second calls a function that is not bound. -/
example : (compose .lastFirst (EmbeddedSource.ofFiles [
      ("layouts/plain.html.tera", "<é>"), ("pages/about.html.tera", "A"),
      ("pages/now.html.tera", "{{ now_or_never() }}"),
      ("shared/none.html", "")]).toSource .standard .empty).run.2 =
    [.scanned .layout "layouts" 1, .scanned .page "pages" 2, .scanned .shared "shared" 0,
      .composed "plain:about" 5] := by
  decide +kernel

end ViewWeave
