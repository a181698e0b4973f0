import ViewWeave.Proofs.Compose.Library
import ViewWeave.Proofs.Registry.Rendering
import ViewWeave.Proofs.Render.Interpolation
import ViewWeave.Source.Embedded

/-!
# Filling in data

Pairs whose text is plain but for the names of variables are always composed, wherever the borders
between their fragments are, and are rendered with the data in the place of the names.
-/

namespace ViewWeave

/-! ## Composition -/

section
variable {order : WalkOrder} {source : ViewSource} {v : ViewLayout} {helpers : Helpers}

/-- All is well that composition checks before it reads a template: directories are listed, files
have names and are read, helpers have names that can be called, and no two pairs have the same
name. -/
structure Readable (source : ViewSource) (v : ViewLayout) (helpers : Helpers) : Prop where
  scanned : ∀ role, ∃ paths,
    (scan source (v.root role) role v.fragmentExtension).run.1 = .ok paths
  named : ∀ role, role ≠ .shared → ∀ path ∈ files source v role, (v.short? role path).isSome
  read : ∀ role, ∀ path ∈ files source v role, (source.read path).isOk
  helpers : helpers.check = .ok ()
  distinct : Distinct (pairsOf source v)

namespace Readable

variable (h : Readable source v helpers)
include h

theorem rootFailures (role : Role) : rootFailures source v role = [] := by
  obtain ⟨paths, hp⟩ := h.scanned role
  exact (verdict_eq_ok.mp ((scan_result source v role).symm.trans hp)).1

theorem readFailures (role : Role) : (files source v role).flatMap source.readFailures = [] := by
  refine List.flatMap_eq_nil_iff.mpr fun path hp => ?_
  have ok := h.read role path hp
  unfold ViewSource.readFailures
  cases hr : source.read path with
  | ok s => rfl
  | error e => simp [hr, Except.isOk, Except.toBool] at ok

theorem fileFailures {role : Role} (hr : role ≠ .shared) : fileFailures source v role = [] := by
  have names : (files source v role).flatMap (v.nameFailures role) = [] := by
    refine List.flatMap_eq_nil_iff.mpr fun path hp => ?_
    obtain ⟨s, hs⟩ := Option.isSome_iff_exists.mp (h.named role hr path hp)
    simp [ViewLayout.nameFailures, hs]
  unfold ViewWeave.fileFailures
  rw [names, h.readFailures role, List.append_nil]

theorem failures_eq :
    failures order source v helpers = pairFailures order helpers [] (pairsOf source v) := by
  have callable : helpers.failures = [] :=
    (verdict_eq_ok.mp (helpers.check_eq_verdict.symm.trans h.helpers)).1
  simp [failures, h.rootFailures, h.fileFailures, h.readFailures, callable]

end Readable

theorem Distinct.duplicateFailures {earlier ts : List ComposedTemplate} {t : ComposedTemplate}
    (h : Distinct (earlier ++ t :: ts)) : duplicateFailures earlier t = [] := by
  unfold Distinct at h
  rw [List.map_append, List.nodup_append] at h
  have none : (earlier.find? fun s => s.name.text = t.name.text) = none :=
    List.find?_eq_none.mpr fun s hs => by
      simpa using h.2.2 _ (List.mem_map_of_mem hs) _ (List.mem_cons_self ..)
  unfold ViewWeave.duplicateFailures
  rw [none]

theorem mem_pairFailures {e : InitError} :
    ∀ {ts earlier : List ComposedTemplate}, Distinct (earlier ++ ts) →
      e ∈ pairFailures order helpers earlier ts →
      ∃ t ∈ ts, ∃ library, e ∈ compileFailures order helpers library t
  | [], _, _, he => by simp [pairFailures] at he
  | t :: ts, earlier, hd, he => by
    have new : duplicateFailures earlier t = [] := hd.duplicateFailures
    have rest : Distinct (earlier ++ [t] ++ ts) := by simpa using hd
    simp only [pairFailures, new, List.nil_append, List.mem_append] at he
    rcases he with he | he
    · exact ⟨t, List.mem_cons_self .., _, he⟩
    · obtain ⟨t', ht', failed⟩ := mem_pairFailures rest he
      exact ⟨t', List.mem_cons_of_mem _ ht', failed⟩

/-- If all is well with files and names, only the text of a pair can fail. -/
theorem Readable.compose_cases (h : Readable source v helpers) :
    (∃ r, (compose order source v helpers).run.1 = .ok r) ∨
      ∃ t ∈ pairsOf source v, ∃ library, ∃ e ∈ compileFailures order helpers library t,
        (compose order source v helpers).run.1 = .error e := by
  cases hc : (compose order source v helpers).run.1 with
  | ok r => exact .inl ⟨r, rfl⟩
  | error e =>
    have failed := List.mem_of_head? ((compose_error_iff order source v helpers).mp hc)
    rw [h.failures_eq] at failed
    obtain ⟨t, ht, library, he⟩ := mem_pairFailures h.distinct failed
    exact .inr ⟨t, ht, library, e, he, rfl⟩

/-- The text is plain but for names of variables. -/
def Interpolated (source : String) : Prop := ∃ i : Interpolation, i.Plain ∧ source = i.source

theorem Interpolated.compileFailures {t : ComposedTemplate} (h : Interpolated t.source)
    (library : Library) : compileFailures order helpers library t = [] := by
  obtain ⟨i, plain, text⟩ := h
  have bound : firstUnbound? order helpers.isBound t.name.text (i.template t.name.text).nodes =
      none := by
    refine firstUnbound?_eq_none.mpr fun f hf => ?_
    have called := mem_callsOfNodes_iff.mpr hf
    simp [Interpolation.template, callsOfNodes_bare i.bare] at called
  unfold ViewWeave.compileFailures
  rw [text, ofSource_source plain]
  dsimp only
  rw [bound]

end

/-! ## Rendering -/

def Failure.noValue (template name : String) : Failure :=
  ⟨s!"Failed to render '{template}'", [(Fault.noVariable name template).message]⟩

theorem Job.failure_noVariable {job : Job} (alone : job.template.parents = []) (name : String) :
    job.failure ⟨none, none⟩ (.noVariable name job.template.name) =
      .noValue job.template.name name := by
  have told : job.tell ⟨none, none⟩ = s!"Failed to render '{job.template.name}'" := by
    unfold tell
    rw [alone]
    rfl
  unfold failure
  rw [told]
  rfl

theorem WellMade.exists_outcome {v : ViewLayout} {helpers : Helpers} {r : Registry}
    {t : ComposedTemplate} (made : WellMade v helpers r) (entry : r.lookup t.name.text = some t)
    {data : Value} {fields : Fields} (hd : dataFields? data = some fields) {template : Template}
    (own : ∀ library, Template.ofSource library t.name.text t.source = .ok template)
    (around : Surroundings) :
    ∃ n, let job : Job := ⟨r.engine, around, template, fields⟩
      r.outcome around t.name.text data = .ok (job, job.runInto none (n + 3)) ∧
      r.render around t.name.text data =
        ((job.runInto none (n + 3)).bytes,
          ((job.runInto none (n + 3)).ended job).mapError (.execution t.name.text)) := by
  obtain ⟨u, hl, compiled⟩ := made.of_lookup entry
  obtain ⟨library, same⟩ := compiled.exists_ofSource
  rw [own library] at same
  obtain rfl : template = u := Except.ok.inj same
  let job : Job := ⟨r.engine, around, template, fields⟩
  have deep : job.depth t.source = t.source.length + 3997 + template.parents.length + 3 := by
    show t.source.length + 4000 + template.parents.length = _
    omega
  refine ⟨t.source.length + 3997 + template.parents.length, ?_, ?_⟩
  · unfold Registry.outcome Registry.outcomeInto
    rw [entry, hl, hd]
    dsimp only
    unfold Job.run
    rw [deep]
  · unfold Registry.render
    rw [Registry.renderInto_eq entry hl hd]
    dsimp only
    unfold Job.run
    rw [deep]

/-- The values that are printed for the names of variables. -/
def Fields.printed (fields : Fields) (escaping : Bool) (name : String) : Option String :=
  (fields.get? name).map (ViewWeave.printed escaping)

/-- What the rendering of a template writes and how it ends: all of a text, or the text before the
first name without a value, at which it fails. -/
def filledResult (name : String) : String × Option String → List UInt8 × Except RenderError Unit
  | (text, none) => (Text.utf8 text, .ok ())
  | (text, some missing) => (Text.utf8 text, .error (.execution name (.noValue name missing)))

theorem WellMade.render_filled {v : ViewLayout} {helpers : Helpers} {r : Registry} {name : String}
    (made : WellMade v helpers r) {t : ComposedTemplate} (ht : r.lookup name = some t)
    {i : Interpolation} (plain : i.Plain) (data : Job.everything ∉ i.names)
    (text : t.source = i.source) {value : Value} {fields : Fields}
    (hf : dataFields? value = some fields) (around : Surroundings) :
    r.render around name value =
      filledResult name (i.filled (fields.printed v.autoescape)) := by
  obtain rfl : t.name.text = name := made.named ht
  have own (library : Library) :
      Template.ofSource library t.name.text t.source = .ok (i.template t.name.text) :=
    text ▸ ofSource_source plain library _
  obtain ⟨n, -, rendered⟩ := made.exists_outcome ht hf own around
  let job : Job := ⟨r.engine, around, i.template t.name.text, fields⟩
  have template : job.template = i.template t.name.text := rfl
  have values : job.valueOf = fields.printed v.autoescape := by
    funext x
    unfold Job.valueOf Fields.printed
    rw [made.escapes]
  obtain ⟨bytes, fault⟩ := Job.runInto_filled plain data template (n + 1)
  rw [values] at bytes fault
  rw [rendered, bytes]
  unfold Outcome.ended
  rw [fault]
  cases i.filled (fields.printed v.autoescape) with
  | mk text missing =>
    cases missing with
    | none => rfl
    | some x =>
      show (_, Except.mapError _ (.error (Job.failure _ _ _))) = _
      rw [Job.failure_noVariable rfl]
      rfl

def filledText (name : String) : String × Option String → Except RenderError String
  | (text, none) => .ok text
  | (_, some missing) => .error (.execution name (.noValue name missing))

theorem WellMade.renderToString_filled {v : ViewLayout} {helpers : Helpers} {r : Registry}
    {name : String} (made : WellMade v helpers r) {t : ComposedTemplate}
    (ht : r.lookup name = some t) {i : Interpolation} (plain : i.Plain)
    (data : Job.everything ∉ i.names) (text : t.source = i.source) {value : Value} {fields : Fields}
    (hf : dataFields? value = some fields) (around : Surroundings) :
    r.renderToString around name value =
      filledText name (i.filled (fields.printed v.autoescape)) := by
  unfold Registry.renderToString
  rw [made.render_filled ht plain data text hf around]
  rcases i.filled (fields.printed v.autoescape) with ⟨text, _ | missing⟩
  · simp [filledResult, filledText, Except.map, Text.decodeLossy_utf8]
  · rfl

/-- **Filling in.** Composition fails only for a pair whose text is something else than plain text
with names of variables in it, if there is nothing wrong with files and names. Such a pair is
rendered with the data in the place of the names, as far as there is data. -/
theorem compose_interpolated {order : WalkOrder} {source : ViewSource} {v : ViewLayout}
    {helpers : Helpers} (h : Readable source v helpers) :
    ((∃ r, (compose order source v helpers).run.1 = .ok r) ∨
      ∃ t ∈ pairsOf source v, ¬Interpolated t.source ∧
        ∃ library, ∃ e ∈ compileFailures order helpers library t,
          (compose order source v helpers).run.1 = .error e) ∧
    ∀ r, (compose order source v helpers).run.1 = .ok r → ∀ t ∈ pairsOf source v,
      ∀ i : Interpolation, i.Plain → Job.everything ∉ i.names → t.source = i.source →
      ∀ around data fields, dataFields? data = some fields →
        r.render around t.name.text data =
            filledResult t.name.text (i.filled (fields.printed v.autoescape)) ∧
          r.renderToString around t.name.text data =
            filledText t.name.text (i.filled (fields.printed v.autoescape)) := by
  refine ⟨?composed, ?rendered⟩
  case composed =>
    rcases h.compose_cases with composed | ⟨t, ht, library, e, he, failed⟩
    · exact .inl composed
    · refine .inr ⟨t, ht, fun plain => ?_, library, e, he, failed⟩
      simp [plain.compileFailures] at he
  case rendered =>
    intro r hr t ht i plain data text around value fields hf
    have made := wellMade_of_compose hr
    have entry := lookup_of_compose hr ht
    exact ⟨made.render_filled entry plain data text hf around,
      made.renderToString_filled entry plain data text hf around⟩

/-- A view tree with tags that begin in one fragment and end in another. -/
def splitTags : ViewSource :=
  (EmbeddedSource.ofFiles [("layouts/plain.html.tera", "<b>\x7b\x7b na"),
    ("pages/about.html.tera", "me \x7d\x7d\n"),
    ("shared/foot.tera", "\x7d \x7b\x7b rest \x7d\x7d!")]).toSource

def splitText : Interpolation := .tag "<b>" "name" (.tag "\n\x7d " "rest" (.last "!"))

def splitEntry : ComposedTemplate where
  name := ⟨"plain:about"⟩
  source := splitText.source
  label := "about.html.tera"
  layoutPath := "layouts/plain.html.tera"
  pagePath := "pages/about.html.tera"

theorem pairsOf_splitTags : pairsOf splitTags .standard = [splitEntry] := by decide +kernel

theorem splitTags_readable : Readable splitTags .standard .empty where
  scanned role := ⟨files splitTags .standard role, by cases role <;> decide +kernel⟩
  named role hr := by
    cases role with
    | shared => exact absurd rfl hr
    | _ => decide +kernel
  read role := by cases role <;> decide +kernel
  helpers := by decide +kernel
  distinct := by
    rw [pairsOf_splitTags]
    exact List.pairwise_singleton _ _

theorem compose_interpolated_splitTags :
    ∃ r, (compose .lastFirst splitTags .standard .empty).run.1 = .ok r ∧
      r.renderToString .bare "plain:about" (.obj [("name", .str "<"), ("rest", .str "&c")]) =
        .ok "<b>&lt;\n\x7d &amp;c!" ∧
      r.render .bare "plain:about" (.obj [("name", .str "<")]) =
        (Text.utf8 "<b>&lt;\n\x7d ",
          .error (.execution "plain:about" (.noValue "plain:about" "rest"))) := by
  obtain ⟨composed, rendered⟩ := @compose_interpolated .lastFirst _ _ _ splitTags_readable
  have here : splitEntry ∈ pairsOf splitTags .standard := by
    rw [pairsOf_splitTags]; exact List.mem_singleton_self _
  have plain : splitText.Plain := by decide
  have own : Job.everything ∉ splitText.names := by decide
  rcases composed with ⟨r, hr⟩ | ⟨t, ht, other, -⟩
  · refine ⟨r, hr, ?_, ?_⟩
    · have text := (rendered r hr splitEntry here splitText plain own rfl .bare
        (.obj [("name", .str "<"), ("rest", .str "&c")]) _ rfl).2
      exact text.trans (by decide +kernel)
    · have written := (rendered r hr splitEntry here splitText plain own rfl .bare
        (.obj [("name", .str "<")]) _ rfl).1
      exact written.trans (by decide +kernel)
  · rw [pairsOf_splitTags, List.mem_singleton] at ht
    subst ht
    exact absurd ⟨splitText, plain, rfl⟩ other

end ViewWeave
