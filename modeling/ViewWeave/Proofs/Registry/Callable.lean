import ViewWeave.Proofs.Registry.EntryPoints
import ViewWeave.Proofs.Registry.Interpolation
import ViewWeave.Proofs.Render.Calling

/-!
# What helpers can be called

A helper is accepted if its name is an identifier. That is not quite what a template can call: where
a name begins with a word for a truth value, or is `super` in a block, the tag is read as something
else. All other helpers can be called, also those that take the name of a function that is always
bound.
-/

namespace ViewWeave

open Markup

/-! ## Names -/

/-- The names that are accepted for helpers are the identifiers of tags. -/
theorem isHelperName_iff {name : String} : isHelperName name ↔ Identifier name.toList := by
  have start : startsHelperName = isNameStart := rfl
  have inside : inHelperName = isNameChar := by
    funext c
    simp only [inHelperName, isNameChar, isNameStart, Char.isAlphanum]
    cases c.isAlpha <;> cases c.isDigit <;> simp
  unfold isHelperName
  cases h : name.toList with
  | nil =>
    constructor
    · intro none
      cases none
    · intro word
      cases word.start
  | cons c cs =>
    simp only [Bool.and_eq_true, start, inside]
    constructor
    · rintro ⟨first, others⟩
      exact ⟨first, by simp [isNameChar_of_isNameStart first, others]⟩
    · intro word
      have chars := word.chars
      rw [List.all_cons, Bool.and_eq_true] at chars
      exact ⟨word.start, chars.2⟩

theorem Helpers.check_eq_ok_iff {helpers : Helpers} :
    helpers.check = .ok () ↔ ∀ name ∈ helpers.names, isHelperName name := by
  rw [helpers.check_eq_verdict, verdict_eq_ok]
  simp [failures, List.filter_eq_nil_iff]

/-! ## Registrations -/

/-- The helpers after these registrations, of which one takes the place of those before it with its
name. -/
def Helpers.ofList (rs : List (String × Helper)) : Helpers :=
  rs.foldl (fun helpers r => helpers.register r.1 r.2) .empty

theorem Helpers.entries_ofList (rs : List (String × Helper)) :
    (Helpers.ofList rs).entries = Sorted.ofList rs := by
  induction rs using List.reverseRecOn with
  | nil => rfl
  | append_singleton rs r ih =>
    rw [Sorted.ofList_concat, ← ih]
    unfold ofList
    rw [List.foldl_append]
    rfl

/-- The helper is the one that was last registered with this name. -/
def Registered (rs : List (String × Helper)) (f : String) (h : Helper) : Prop :=
  ∃ before after, rs = before ++ (f, h) :: after ∧ ∀ r ∈ after, r.1 ≠ f

section
variable {rs : List (String × Helper)} {f : String} {h : Helper}

theorem Helpers.get?_ofList : (Helpers.ofList rs).get? f = some h ↔ Registered rs f h := by
  unfold get?
  rw [entries_ofList]
  exact Sorted.lookup_ofList_eq_some_iff

theorem exists_registered (hf : f ∈ rs.map (·.1)) : ∃ h, Registered rs f h := by
  obtain ⟨⟨_, h⟩, hm, rfl⟩ := List.mem_map.mp hf
  obtain ⟨last, stored⟩ := Sorted.exists_mem_ofList hm
  exact ⟨last, Sorted.lookup_ofList_eq_some_iff.mp
    (Sorted.lookup_of_mem (Sorted.ascending_ofList rs) stored)⟩

theorem Registered.isBound (last : Registered rs f h) : (Helpers.ofList rs).isBound f := by
  simp [Helpers.isBound, Helpers.contains, Helpers.get?_ofList.mpr last]

theorem Registered.identifier (last : Registered rs f h)
    (accepted : (Helpers.ofList rs).check = .ok ()) :
    Identifier f.toList := by
  have found : (Helpers.ofList rs).entries.lookup f = some h := Helpers.get?_ofList.mpr last
  exact isHelperName_iff.mp
    (Helpers.check_eq_ok_iff.mp accepted f (List.mem_map_of_mem (Sorted.mem_of_lookup found)))

end

/-! ## Composition -/

section
variable {order : WalkOrder} {helpers : Helpers} {t : ComposedTemplate} {p : Slot} {f : String}

/-- The call of a bound function never fails by its text, unless a word for a truth value leads its
name. -/
theorem Slot.compileFailures (plain : p.Plain) (name : Identifier f.toList)
    (text : t.source = p.source f)
    (bound : helpers.isBound f) (library : Library) : compileFailures order helpers library t =
      if LedByTruth f.toList then [.compile t.name.text t.label .malformed] else [] := by
  have read {n : Node}
      (own : Template.ofSource library t.name.text (p.source f) =
        .ok (p.template n t.name.text))
      (calls : ∀ g ∈ n.calls, helpers.isBound g) :
      ViewWeave.compileFailures order helpers library t = [] := by
    have none : firstUnbound? order helpers.isBound t.name.text (p.template n t.name.text).nodes =
        none := by
      refine firstUnbound?_eq_none.mpr fun g called => ?_
      have hg := mem_callsOfNodes_iff.mpr called
      rw [show (p.template n t.name.text).nodes = p.nodes n from rfl, Slot.callsOfNodes_nodes] at hg
      exact calls g hg
    unfold ViewWeave.compileFailures
    rw [text, own]
    dsimp only
    rw [none]
  by_cases led : LedByTruth f.toList
  · unfold ViewWeave.compileFailures
    rw [if_pos led, text, Slot.ofSource_led plain name library _ led]
  · rw [if_neg led]
    by_cases lower : p.InBlock ∧ f = "super"
    · obtain ⟨block, rfl⟩ := lower
      exact read (Slot.ofSource_super plain block library _) nofun
    · have shown : ¬p.Hides f := not_or.mpr ⟨led, lower⟩
      refine read (Slot.ofSource_call plain name library _ shown) fun g hg => ?_
      have calls : (callNode f.toList).calls = [String.ofList f.toList] := rfl
      rw [calls, String.ofList_toList, List.mem_singleton] at hg
      rwa [hg]

end

/-! ## Rendering -/

def Failure.noLowerBlock (template : String) : Failure :=
  ⟨s!"Failed to render '{template}'", [Fault.noLowerBlock.message]⟩

section
variable {v : ViewLayout} {helpers : Helpers} {r : Registry} {t : ComposedTemplate}
  (made : WellMade v helpers r) (entry : r.lookup t.name.text = some t) {data : Value}
  {fields : Fields} (hd : dataFields? data = some fields)
  {p : Slot} (plain : p.Plain) (around : Surroundings)
include made entry hd plain

theorem WellMade.render_call {f : String} (name : Identifier f.toList)
    (text : t.source = p.source f) (shown : ¬p.Hides f) {h : Helper}
    (bound : helpers.get? f = some h) {s : String} (result : h.call [] = .ok (.str s)) :
    ∃ job o, r.outcome around t.name.text data = .ok (job, o) ∧
      (∀ moment, job.function? moment f = some h) ∧ o.called = [f] ∧
      r.render around t.name.text data =
        (Text.utf8 (p.filled (h.prints v.autoescape s)), .ok ()) := by
  have own (library : Library) : Template.ofSource library t.name.text t.source =
      .ok (p.template (callNode f.toList) t.name.text) :=
      text ▸ Slot.ofSource_call plain name library _ shown
  obtain ⟨n, outcome, rendered⟩ := made.exists_outcome entry hd own around
  have template :
    (⟨r.engine, around, p.template (callNode f.toList) t.name.text, fields⟩ : Job).template =
      p.template (callNode f.toList) t.name.text := rfl
  have callable : r.engine.helper? f = some h := made.helpers ▸ bound
  obtain ⟨bytes, called, fault⟩ := Job.runInto_call n template callable result
  refine ⟨_, _, outcome, Job.function?_of_helper callable, called, ?_⟩
  rw [rendered, bytes, made.escapes]
  unfold Outcome.ended
  rw [fault]
  rfl

theorem WellMade.render_super (text : t.source = p.source "super") (block : p.InBlock) :
    ∃ job o, r.outcome around t.name.text data = .ok (job, o) ∧ o.called = [] ∧
      r.render around t.name.text data =
        (Text.utf8 p.lead, .error (.execution t.name.text (.noLowerBlock t.name.text))) := by
  have own (library : Library) : Template.ofSource library t.name.text t.source =
      .ok (p.template .super t.name.text) := text ▸ Slot.ofSource_super plain block library _
  obtain ⟨n, outcome, rendered⟩ := made.exists_outcome entry hd own around
  have template : (⟨r.engine, around, p.template .super t.name.text, fields⟩ : Job).template =
      p.template .super t.name.text := rfl
  obtain ⟨bytes, called, site, fault, told⟩ := Job.runInto_super n block template
  refine ⟨_, _, outcome, called, ?_⟩
  rw [rendered, bytes]
  unfold Outcome.ended
  rw [fault]
  dsimp only
  unfold Job.failure
  rw [told]
  rfl

end

/-- The text has nothing in it but the call of a function with one of these names, which no word for
a truth value leads. -/
def CallsOne (names : List String) (text : String) : Prop :=
  ∃ f ∈ names, ¬LedByTruth f.toList ∧ ∃ p : Slot, p.Plain ∧ text = p.source f

/-- **Calls without arguments.** If all helpers have names that are accepted, a text with nothing in
it but the call of one of them is a template, and its rendering calls the helper that was last
registered with the name and writes the result in place of the tag. There are two exceptions: no
text is a template where a word for a truth value leads the name, and in a block `super` is no call,
so that the rendering fails there. -/
theorem compose_callable {order : WalkOrder} {source : ViewSource} {v : ViewLayout}
    {rs : List (String × Helper)} (accepted : (Helpers.ofList rs).check = .ok ()) :
    (Readable source v (.ofList rs) → (∃ r, (compose order source v (.ofList rs)).run.1 = .ok r) ∨
      ∃ t ∈ pairsOf source v, ¬CallsOne (rs.map (·.1)) t.source ∧
        ∃ library, ∃ e ∈ compileFailures order (.ofList rs) library t,
          (compose order source v (.ofList rs)).run.1 = .error e) ∧
    ∀ t ∈ pairsOf source v, ∀ f h, Registered rs f h → ∀ p : Slot, p.Plain → t.source = p.source f →
      (∀ library, compileFailures order (.ofList rs) library t =
        if LedByTruth f.toList then [.compile t.name.text t.label .malformed] else []) ∧
      ∀ r, (compose order source v (.ofList rs)).run.1 = .ok r → ¬LedByTruth f.toList ∧
        ∀ around data fields, dataFields? data = some fields →
          (¬(p.InBlock ∧ f = "super") → ∀ s, h.call [] = .ok (.str s) →
            let text := p.filled (h.prints v.autoescape s)
            r.render around t.name.text data = (Text.utf8 text, .ok ()) ∧
              r.renderToString around t.name.text data = .ok text ∧
              ∃ job o, r.outcome around t.name.text data = .ok (job, o) ∧
                (∀ moment, job.function? moment f = some h) ∧ o.called = [f]) ∧
          (p.InBlock ∧ f = "super" →
            r.render around t.name.text data =
                (Text.utf8 p.lead, .error (.execution t.name.text (.noLowerBlock t.name.text))) ∧
              ∃ job o, r.outcome around t.name.text data = .ok (job, o) ∧ o.called = []) := by
  have compiles {t : ComposedTemplate} {f : String} {h : Helper} (last : Registered rs f h)
      {p : Slot} (plain : p.Plain) (text : t.source = p.source f) (library : Library) :
      compileFailures order (.ofList rs) library t =
        if LedByTruth f.toList then [.compile t.name.text t.label .malformed] else [] :=
    Slot.compileFailures plain (last.identifier accepted) text last.isBound library
  refine ⟨?composed, ?called⟩
  case composed =>
    intro readable
    rcases readable.compose_cases with composed | ⟨t, ht, library, e, he, failed⟩
    · exact .inl composed
    · refine .inr ⟨t, ht, ?_, library, e, he, failed⟩
      rintro ⟨f, hf, unled, p, plain, text⟩
      obtain ⟨h, last⟩ := exists_registered hf
      rw [compiles last plain text, if_neg unled] at he
      cases he
  case called =>
    intro t ht f h last p plain text
    refine ⟨compiles last plain text, fun r hr => ?_⟩
    have made := wellMade_of_compose hr
    have entry := lookup_of_compose hr ht
    have name := last.identifier accepted
    have unled : ¬LedByTruth f.toList := by
      intro led
      obtain ⟨template, -, compiled⟩ := made.of_lookup entry
      obtain ⟨library, own⟩ := compiled.exists_ofSource
      rw [text, Slot.ofSource_led plain name library _ led] at own
      cases own
    refine ⟨unled, fun around data fields hd => ⟨fun own s result => ?_, fun ⟨block, lower⟩ => ?_⟩⟩
    · obtain ⟨job, o, outcome, callable, called, rendered⟩ :=
        made.render_call entry hd plain around name text (not_or.mpr ⟨unled, own⟩)
          (Helpers.get?_ofList.mpr last) result
      exact ⟨rendered, Registry.renderToString_eq_ok_iff.mpr rendered, job, o, outcome,
        callable, called⟩
    · obtain ⟨job, o, outcome, called, rendered⟩ :=
        made.render_super entry hd plain around (lower ▸ text) block
      exact ⟨rendered, job, o, outcome, called⟩

def callers : ViewSource :=
  (EmbeddedSource.ofFiles
    [("layouts/plain.html.tera", "<p>"), ("pages/count.html.tera", "{{ range() }}"),
    ("pages/lower.html.tera", "{% block main %}-{{ super() }}{% endblock %}"),
    ("pages/mark.html.tera", "{% block main %}-{{ mark() }}{% endblock %}"),
      ("shared/foot.tera", "</p>")]).toSource

def markers : List (String × Helper) :=
  [("range", .const (.str "1") false), ("mark", .const (.str "<") false),
  ("super", .const (.str "S") false), ("range", .const (.str "<b>") true)]

def callEntry (page text : String) : ComposedTemplate where
  name := .ofParts "plain" page
  source := text
  label := page ++ ".html.tera"
  layoutPath := "layouts/plain.html.tera"
  pagePath := "pages/" ++ page ++ ".html.tera"

def countSlot : Slot := .top "<p>" "</p>"

def mainSlot : Slot := .block "<p>" "main" "-" "" "</p>"

theorem pairsOf_callers : pairsOf callers .standard = [callEntry "count" (countSlot.source "range"),
    callEntry "lower" (mainSlot.source "super"), callEntry "mark" (mainSlot.source "mark")] := by
  decide +kernel

theorem markers_readable : Readable callers .standard (.ofList markers) where
  scanned role := ⟨files callers .standard role, by cases role <;> decide +kernel⟩
  named role hr := by
    cases role with
    | shared => exact absurd rfl hr
    | _ => decide +kernel
  read role := by cases role <;> decide +kernel
  helpers := by decide +kernel
  distinct := by
    rw [pairsOf_callers]
    unfold Distinct
    decide +kernel

theorem compose_callable_callers :
    ∃ r, (compose .lastFirst callers .standard (.ofList markers)).run.1 = .ok r ∧
    r.renderToString .bare "plain:count" .null = .ok "<p><b></p>" ∧
    r.renderToString .bare "plain:mark" .null = .ok "<p>-&lt;</p>" ∧
    r.render .bare "plain:lower" .null =
      (Text.utf8 "<p>-", .error (.execution "plain:lower" (.noLowerBlock "plain:lower"))) := by
  obtain ⟨composed, called⟩ :=
    @compose_callable .lastFirst callers .standard markers markers_readable.helpers
  have top : countSlot.Plain := by decide
  have block : mainSlot.Plain := by decide
  have count := called (callEntry "count" (countSlot.source "range"))
    (by rw [pairsOf_callers]; simp) "range"
    (.const (.str "<b>") true) ⟨markers.take 3, [], rfl, nofun⟩ countSlot top rfl
  have mark := called (callEntry "mark" (mainSlot.source "mark"))
    (by rw [pairsOf_callers]; simp) "mark"
    (.const (.str "<") false) ⟨markers.take 1, markers.drop 2, rfl, by decide⟩ mainSlot block rfl
  have lower := called (callEntry "lower" (mainSlot.source "super"))
    (by rw [pairsOf_callers]; simp) "super"
    (.const (.str "S") false) ⟨markers.take 2, markers.drop 3, rfl, by decide⟩ mainSlot block rfl
  rcases composed markers_readable with ⟨r, hr⟩ | ⟨t, ht, other, -⟩
  · refine ⟨r, hr, ?_, ?_, ?_⟩
    · have text := (((count.2 r hr).2 .bare .null [] rfl).1 (by decide) "<b>" rfl).2.1
      exact text.trans (by decide +kernel)
    · have text := (((mark.2 r hr).2 .bare .null [] rfl).1 (by decide) "<" rfl).2.1
      exact text.trans (by decide +kernel)
    · have written := (((lower.2 r hr).2 .bare .null [] rfl).2 ⟨trivial, rfl⟩).1
      exact written.trans (by decide +kernel)
  · refine absurd ?_ other
    rw [pairsOf_callers] at ht
    simp only [List.mem_cons, List.not_mem_nil, or_false] at ht
    rcases ht with rfl | rfl | rfl
    · exact ⟨"range", by decide, by decide, countSlot, top, rfl⟩
    · exact ⟨"super", by decide, by decide, mainSlot, block, rfl⟩
    · exact ⟨"mark", by decide, by decide, mainSlot, block, rfl⟩

/-! ## Helpers that cannot be called -/

def loneCall (text : String) : ViewSource :=
  (EmbeddedSource.ofFiles
    [("layouts/a.html.tera", ""), ("pages/p.html.tera", text), ("shared/none.tera", "")]).toSource

def hidden : Helpers :=
  .ofList [("super", .const (.str "S") false), ("true", .const (.str "T") false)]

theorem hidden_uncallable : hidden.check = .ok () ∧
    (compose .lastFirst (loneCall ((Slot.top "" "").source "true")) .standard hidden).run.1 =
      .error (.compile "a:p" "p.html.tera" .malformed) ∧
    ∃ r, (compose .lastFirst (loneCall ((Slot.block "" "b" "" "" "").source "super")) .standard
      hidden).run.1 = .ok r ∧
      r.renderToString .bare "a:p" .null = .error (.execution "a:p" (.noLowerBlock "a:p")) := by
  refine ⟨by decide +kernel, (compose_error_iff _ _ _ _).mpr (by decide +kernel), _,
    compose_of_failures (by decide +kernel), by decide +kernel⟩

end ViewWeave
