import ViewWeave.Proofs.Compose.Library
import ViewWeave.Proofs.Markup.Trim
import ViewWeave.Proofs.Registry.Rendering
import ViewWeave.Proofs.Render.Escaping
import ViewWeave.Source.Embedded

/-!
# No markup from data

With escaping, the data of a rendering brings no markup into it, as long as templates put out joined
texts and arrays with care.
-/

namespace ViewWeave

open Text

/-! ## Safe texts -/

/-- A template text without markup, all of whose output is guarded. -/
structure SafeText (source : String) : Prop where
  mute : Mute source.toList
  guarded : ∀ ns, readNodes source = .ok ns → Every (·.isGuarded) ns

instance (source : String) : Decidable (SafeText source) :=
  match h : readNodes source with
  | .ok ns => decidable_of_iff (Mute source.toList ∧ ∀ n ∈ partsOf ns, n.isGuarded)
      ⟨fun ⟨mute, all⟩ => ⟨mute, fun ms hm => by cases h.symm.trans hm; exact all⟩,
        fun safe => ⟨safe.mute, safe.guarded ns h⟩⟩
  | .error _ => decidable_of_iff (Mute source.toList)
      ⟨fun mute => ⟨mute, fun _ hm => by cases h.symm.trans hm⟩, SafeText.mute⟩

theorem SafeText.every {source : String} (h : SafeText source) {ns : List Node}
    (hn : readNodes source = .ok ns) : Every Node.Safe ns :=
  fun n hm => ⟨Markup.lacks_of_readNodes hn h.mute n hm, h.guarded ns hn n hm⟩

theorem Compiled.every_safe {helpers : Helpers} {t : ComposedTemplate} {template : Template}
    (h : Compiled helpers t template) (ht : SafeText t.source) : template.Every Node.Safe := by
  obtain ⟨library, read⟩ := h.read
  have nodes := ht.every read.nodes
  refine ⟨nodes, ?_, ?_⟩
  · rw [read.blocks]
    exact every_of_blocks nodes
  · rw [read.macros]
    exact every_of_macros nodes

/-! ## Functions -/

/-- No registered helper puts its results out as they are. -/
def Helpers.Escaped (helpers : Helpers) : Prop := ∀ x ∈ helpers.entries, ¬x.2.safe

theorem Helpers.Escaped.get? {helpers : Helpers} (h : helpers.Escaped) {name : String} {f : Helper}
    (hf : helpers.get? name = some f) : ¬f.safe :=
  h (name, f) (Sorted.mem_of_lookup hf)

/-! ## Renderings -/

section
variable {order : WalkOrder} {source : ViewSource} {v : ViewLayout} {helpers : Helpers}
  {r : Registry} (h : (compose order source v helpers).run.1 = .ok r)
include h

theorem mem_pairsOf_of_lookup {name : String} {t : ComposedTemplate} (ht : r.lookup name = some t) :
    t ∈ pairsOf source v := by
  obtain ⟨good, rfl⟩ := compose_ok h
  exact (good.distinct.mem_tableOf.mp (Sorted.mem_of_lookup ht)).1

theorem covers_of_safeTexts (texts : ∀ t ∈ pairsOf source v, SafeText t.source) {name : String}
    {template : Template} (hl : r.engine.library.lookup name = some template)
    (around : Surroundings) (fields : Fields) :
    Judgement.escaping.Covers ⟨r.engine, around, template, fields⟩ := by
  have every (name : String) (t : Template) (ht : r.engine.library.lookup name = some t) :
      t.Every Node.Safe := by
    obtain ⟨entry, found, compiled⟩ := (wellMade_of_compose h).of_library ht
    exact compiled.every_safe (texts entry (mem_pairsOf_of_lookup h found))
  exact ⟨every, every name template hl⟩

/-- **No markup from data.** If a composed registry escapes, no helper is exempt from that and all
texts are safe, then what a rendering writes has no markup, whatever the data is and even if it
fails, unless an output tag puts out an array that is printed with markup. -/
theorem compose_escaped (on : v.autoescape) (hh : helpers.Escaped)
    (texts : ∀ t ∈ pairsOf source v, SafeText t.source) {around : Surroundings}
    (keeps : around.KeepMute) (name : String) (data : Value)
    (tame : ∀ job o, r.outcome around name data = .ok (job, o) → Tame o.shown) :
    (∃ text, Mute text.toList ∧ (r.render around name data).1 = Text.utf8 text) ∧
      ∀ text, r.renderToString around name data = .ok text → Mute text.toList := by
  have made := wellMade_of_compose h
  have written : ∃ text, Mute text.toList ∧ (r.render around name data).1 = Text.utf8 text := by
    unfold Registry.render Registry.renderInto
    cases ho : r.outcomeInto around none name data with
    | error e => exact ⟨"", mute_nil, rfl⟩
    | ok result =>
      obtain ⟨job, o⟩ := result
      have shown := tame job o ho
      obtain ⟨t, template, fields, -, hl, -, rfl, rfl⟩ := Registry.outcome_eq_ok ho
      have escaped : r.engine.EscapesCalls := fun name f hf => hh.get? (made.helpers ▸ hf)
      have clean := Job.runTo_mute escaped keeps (covers_of_safeTexts h texts hl around fields)
        ((made.escapes _).trans on) _ shown
      exact ⟨_, clean.text, clean.bytes⟩
  refine ⟨written, fun text rendered => ?_⟩
  obtain ⟨s, mute, hs⟩ := written
  unfold Registry.renderToString at rendered
  rcases hr : r.render around name data with ⟨bytes, e | u⟩
  · rw [hr] at rendered
    cases rendered
  · rw [hr] at rendered hs
    dsimp only at hs
    cases rendered
    rwa [hs, decodeLossy_utf8]

end

/-- The filter `indent`, as it is for texts of one line. -/
def indentLine : Filter := fun v args => do
  let s ← Filter.textInput v
  let lead ← Filter.argOr args "prefix" "    " Filter.text
  let first ← Filter.argOr args "first" false Filter.truth
  return .str (if first then lead ++ s else s)

theorem keeps_indentLine : indentLine.Keeps "indent" := by
  intro s args v hs hm hv
  obtain ⟨_, ⟨⟩, hv⟩ := Filter.bind_eq_ok.mp hv
  obtain ⟨lead, hl, hv⟩ := Filter.bind_eq_ok.mp hv
  obtain ⟨first, -, hv⟩ := Filter.bind_eq_ok.mp hv
  have mute : Mute lead.toList := hm.argOr (by decide) (by decide) hl
  cases hv
  cases first with
  | false => exact hs
  | true =>
    show Mute (lead ++ s).toList
    rw [String.toList_append]
    exact mute_append.mpr ⟨mute, hs⟩

/-- Surroundings that have nothing to add but a filter. -/
def indenting : Surroundings :=
  { Surroundings.bare with filter? :=
    fun name => if name = "indent" then some indentLine else none }

theorem indenting_keepMute : indenting.KeepMute := by
  intro name f hf
  obtain ⟨rfl, same⟩ := Option.ite_none_right_eq_some.mp hf
  cases same
  exact keeps_indentLine

def card : ViewSource :=
  (EmbeddedSource.ofFiles [
    ("layouts/card.html.tera", "{{ name }}"),
    ("pages/home.html.tera", "{{ name ~ 1 | upper }}"),
    ("shared/foot.tera",
      "\x7b% filter indent(prefix=\"-\", first=true) %\x7d{{ items }}\x7b% endfilter %\x7d")]).toSource

def cardRegistry : Registry := registryOf .standard .empty (pairsOf card .standard)

def cardData : Value := .obj [("items", .arr [.str "i", .ofInt 1]), ("name", .str "<b>")]

theorem card_ok : (compose .lastFirst card .standard .empty).run.1 = .ok cardRegistry :=
  compose_of_failures (by decide +kernel)

theorem card_safe : ∀ t ∈ pairsOf card .standard, SafeText t.source := by decide +kernel

theorem card_shown : (cardRegistry.outcome indenting "card:home" cardData).toOption.map
    (fun result => result.2.shown.all Value.isTame) = some true := by
  decide +kernel

theorem card_tame (job : Job) (o : Outcome)
    (h : cardRegistry.outcome indenting "card:home" cardData = .ok (job, o)) : Tame o.shown := by
  have shown := card_shown
  rw [h] at shown
  exact List.all_eq_true.mp (Option.some.inj shown)

theorem compose_escaped_card :
    cardRegistry.renderToString indenting "card:home" cardData =
        .ok "&lt;b&gt;&lt;B&gt;1-[i, 1]" ∧
      Mute "&lt;b&gt;&lt;B&gt;1-[i, 1]".toList := by
  have rendered : cardRegistry.renderToString indenting "card:home" cardData =
      .ok "&lt;b&gt;&lt;B&gt;1-[i, 1]" := by
    decide +kernel
  have exempt : Helpers.empty.Escaped := fun _ hx => absurd hx List.not_mem_nil
  exact ⟨rendered, (compose_escaped card_ok rfl exempt card_safe indenting_keepMute "card:home"
    cardData card_tame).2 _ rendered⟩

/-- A view tree without markup that puts out data in all the ways that are not escaped. -/
def careless : ViewSource :=
  (EmbeddedSource.ofFiles [
    ("layouts/a.html.tera", ""),
    ("pages/array.html.tera", "{{ items }}"),
    ("pages/cut.html.tera", "{% filter truncate(length=0, end=s) %}x{% endfilter %}"),
    ("pages/joined.html.tera", "{{ s ~ 1 }}"),
    ("pages/lines.html.tera", "{% filter linebreaksbr %}{{ lines }}{% endfilter %}"),
    ("pages/replaced.html.tera",
      "\x7b% filter replace(from=\"x\", to=s) %\x7dx\x7b% endfilter %\x7d"),
    ("shared/none.tera", "")]).toSource

def carelessRegistry : Registry := registryOf .standard .empty (pairsOf careless .standard)

def carelessData : Value :=
  .obj [("items", .arr [.str "<b>"]), ("lines", .str "\n"), ("s", .str "<b>")]

/-- Data brings markup into templates that have none, though output is to be escaped, no text uses
the filter `safe`, and none asks for all variables: arrays, joined texts and what a filter over
nodes puts in are not escaped. -/
theorem markup_of_data :
    ViewLayout.standard.autoescape ∧
      (∀ t ∈ pairsOf careless .standard, Mute t.source.toList ∧
        ¬occursIn "safe".toList t.source.toList ∧ ¬occursIn Job.everything.toList t.source.toList) ∧
      (compose .lastFirst careless .standard .empty).run.1 = .ok carelessRegistry ∧
      carelessRegistry.renderToString .bare "a:array" carelessData = .ok "[<b>]" ∧
      carelessRegistry.renderToString .bare "a:cut" carelessData = .ok "<b>" ∧
      carelessRegistry.renderToString .bare "a:joined" carelessData = .ok "<b>1" ∧
      carelessRegistry.renderToString .bare "a:lines" carelessData = .ok "<br>" ∧
      carelessRegistry.renderToString .bare "a:replaced" carelessData = .ok "<b>" := by
  refine ⟨rfl, by decide +kernel, compose_of_failures (by decide +kernel), ?_⟩
  decide +kernel

end ViewWeave
