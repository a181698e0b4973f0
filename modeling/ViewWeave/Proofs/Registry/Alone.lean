import ViewWeave.Proofs.Registry.Calls

/-!
# Templates that stand alone

A template that includes, imports and extends nothing is rendered as if it were alone: an engine
that holds only its text, under whatever name, writes the same bytes and fails just when the
registry does.
-/

namespace ViewWeave

/-! ## Templates without links -/

def Permit.unlinked : Permit := ⟨fun _ => True, fun _ => False⟩

/-- The template links to nothing. -/
structure Unlinked (t : Template) : Prop where
  parent : t.parent = none
  parents : t.parents = []
  imports : t.imports = []
  whole : Permit.unlinked.Whole t

theorem Template.ReadFrom.unlinked {library : Library} {source : String} {t : Template}
    (h : t.ReadFrom library source) (hl : linksOf source = some []) : Unlinked t := by
  unfold linksOf at hl
  rw [h.nodes] at hl
  have links : linksOfNodes t.nodes = [] := Option.some.inj hl
  have nodes : Permit.unlinked.Nodes t.nodes := by
    refine ⟨fun _ _ => trivial, ?_⟩
    rw [links]
    exact fun _ hm => absurd hm List.not_mem_nil
  refine ⟨h.parent.trans (parentOf_eq_none links), ?_,
    h.imports.trans (importsOf_eq_nil links), nodes, ?_, ?_⟩
  · have parents := h.parents
    rw [parentOf_eq_none links] at parents
    exact (Except.ok.inj parents).symm
  · rw [h.blocks]
    exact Permit.nodes_of_blocks nodes
  · rw [h.macros]
    exact Permit.definition_of_macros nodes

/-- The text of a template without links is read alike under every name, and needs no library. -/
theorem Unlinked.ofSource_nil {library : Library} {source : String} {t : Template} (h : Unlinked t)
    (read : t.ReadFrom library source) (other : String) :
    Template.ofSource [] other source = .ok { t with name := other } := by
  refine Template.ofSource_eq_ok_iff.mpr ⟨rfl, ?_⟩
  have parent : parentOf t.nodes = none := read.parent.symm.trans h.parent
  exact {
    nodes := read.nodes
    parent := read.parent
    parents := by
      show parentsOf [] other (parentOf t.nodes) = .ok t.parents
      rw [parent, h.parents]
      rfl
    imports := read.imports
    present := by
      show t.imports.find? _ = none
      rw [h.imports]
      rfl
    blocks := read.blocks
    macros := read.macros }

/-! ## Macros -/

theorem lookup_macroTable (t : Template) (name : String) :
    t.macroTable.lookup name = (t.macros.lookup name).map fun m => (t, m) := by
  unfold Template.macroTable
  induction t.macros with
  | nil => rfl
  | cons m ms ih =>
    rw [List.map_cons, Sorted.lookup_cons_pair, ih, show m = (m.1, m.2) from rfl,
      Sorted.lookup_cons_pair]
    split <;> rfl

theorem Unlinked.findMacro {t : Template} (h : Unlinked t) {library : Library} {name : String}
    (hl : library.lookup name = some t) (space macroName : String) :
    (library.findMacro name space macroName).toOption =
      if space = "self" then (t.macros.lookup macroName).map fun m => (t, m) else none := by
  have spaces : library.spaces (library.length + 1) t =
      if t.macros.isEmpty then [] else [("self", t.macroTable)] := by
    unfold Library.spaces Template.spaces
    rw [h.parents, h.imports]
    rfl
  unfold Library.findMacro
  rw [hl]
  dsimp only
  rw [spaces, ← lookup_macroTable]
  by_cases hm : t.macros.isEmpty
  · rw [if_pos hm]
    rw [List.isEmpty_iff] at hm
    simp [Except.toOption, Template.macroTable, hm]
  · rw [if_neg hm, Sorted.lookup_cons_pair]
    by_cases hs : space = "self"
    · rw [if_pos hs, if_pos hs]
      dsimp only
      cases t.macroTable.lookup macroName <;> rfl
    · rw [if_neg hs, if_neg hs]
      rfl

/-! ## Two renderings of one text -/

/-- Two renderings of the same text without links, by templates that differ at most by their
names. -/
structure SameText (j₁ j₂ : Job) : Prop where
  unlinked : Unlinked j₁.template
  template : j₂.template = { j₁.template with name := j₂.template.name }
  here₁ : j₁.template? j₁.template.name = some j₁.template
  here₂ : j₂.template? j₂.template.name = some j₂.template
  helpers : j₁.engine.helper? = j₂.engine.helper?
  around : j₁.around = j₂.around
  data : j₁.data = j₂.data
  escapes : j₁.engine.escapes j₁.template.name = j₂.engine.escapes j₂.template.name

namespace SameText

variable {j₁ j₂ : Job} (h : SameText j₁ j₂)
include h

theorem nodes : j₁.template.nodes = j₂.template.nodes := by rw [h.template]

theorem blocks : j₁.template.blocks = j₂.template.blocks := by rw [h.template]

theorem macros : j₁.template.macros = j₂.template.macros := by rw [h.template]

theorem parents : j₁.template.parents = j₂.template.parents := by rw [h.template]

theorem unlinked₂ : Unlinked j₂.template := by
  rw [h.template]
  obtain ⟨parent, parents, imports, nodes, blocks, macros⟩ := h.unlinked
  exact ⟨parent, parents, imports, nodes, blocks, macros⟩

theorem sameMacros : SameMacros Permit.unlinked (fun t u => t = j₁.template ∧ u = j₂.template)
    j₁.engine.library j₂.engine.library j₁.template.name j₂.template.name := by
  intro space name
  have h₁ := h.unlinked.findMacro h.here₁ space name
  have h₂ := h.unlinked₂.findMacro h.here₂ space name
  rw [← h.macros] at h₂
  -- both sides are decided by the same macros, so the libraries may be forgotten
  generalize j₁.engine.library.findMacro j₁.template.name space name = r₁ at h₁ ⊢
  generalize j₂.engine.library.findMacro j₂.template.name space name = r₂ at h₂ ⊢
  by_cases hs : space = "self"
  · rw [if_pos hs] at h₁ h₂
    cases hm : j₁.template.macros.lookup name with
    | none =>
      rw [hm] at h₁ h₂
      cases r₁ <;> cases h₁
      cases r₂ <;> cases h₂
      trivial
    | some m =>
      rw [hm] at h₁ h₂
      cases r₁ <;> cases h₁
      cases r₂ <;> cases h₂
      exact ⟨⟨rfl, rfl⟩, rfl, h.unlinked.whole.macros _ (Sorted.mem_of_lookup hm)⟩
  · rw [if_neg hs] at h₁ h₂
    cases r₁ <;> cases h₁
    cases r₂ <;> cases h₂
    trivial

theorem root₁ : j₁.root = j₁.template := by
  unfold Job.root
  rw [h.unlinked.parents]
  rfl

theorem root₂ : j₂.root = j₂.template := by
  unfold Job.root
  rw [h.unlinked₂.parents]
  rfl

def twin : Twin j₁ j₂ where
  permit := Permit.unlinked
  like t u := t = j₁.template ∧ u = j₂.template
  nodes ht := by
    rw [ht.1, ht.2]
    exact ⟨h.nodes, h.unlinked.whole.nodes⟩
  blocks ht := by
    rw [ht.1, ht.2]
    exact ⟨h.blocks, h.unlinked.whole.blocks⟩
  parents ht := by
    rw [ht.1, ht.2]
    refine ⟨h.parents, fun p hp => ?_⟩
    rw [h.unlinked.parents] at hp
    exact absurd hp List.not_mem_nil
  macros ht := by
    rw [ht.1, ht.2]
    exact h.sameMacros
  links hl := hl.elim
  helpers _ := by rw [h.helpers]
  around := h.around
  data := h.data
  template := ⟨rfl, rfl⟩
  root := ⟨h.root₁, h.root₂⟩
  named := by rw [h.root₁, h.root₂]; exact iff_of_true rfl rfl
  escapes := h.escapes

end SameText

/-! ## Registries -/

/-- A registry that holds only one text, under a name. -/
def Registry.alone (helpers : Helpers) (escaped : List String) (name source : String) :
    Except TemplateFault Registry := do
  let template ← Template.ofSource [] name source
  return ⟨[(name, ⟨⟨name⟩, source, "", "", ""⟩)], [(name, template)], helpers.get?, escaped⟩

theorem sameText_alone {v : ViewLayout} {helpers : Helpers} {r : Registry}
    (made : WellMade v helpers r) {name : String} {template : Template}
    (hl : r.engine.library.lookup name = some template) (hn : template.name = name)
    (unlinked : Unlinked template) (around : Surroundings) (fields : Fields)
    {escaped : List String} {other : String}
    (he : Engine.escapes ⟨[], helpers.get?, escaped⟩ other = v.autoescape) :
    SameText ⟨r.engine, around, template, fields⟩
      ⟨⟨[(other, { template with name := other })], helpers.get?, escaped⟩, around,
        { template with name := other }, fields⟩ where
  unlinked := unlinked
  template := rfl
  here₁ := by
    show r.engine.library.lookup template.name = some template
    rw [hn, hl]
  here₂ := by
    show List.lookup other [(other, _)] = _
    rw [Sorted.lookup_cons_pair, if_pos rfl]
  helpers := made.helpers
  around := rfl
  data := rfl
  escapes := (made.escapes _).trans he.symm

/-- **Standing alone.** An entry without links is rendered as if it were alone: whatever the other
entries are, an engine that holds only its text, under any name, takes the text, writes the same
bytes, and fails just when the registry does. -/
theorem render_alone {order : WalkOrder} {source : ViewSource} {v : ViewLayout} {helpers : Helpers}
    {r : Registry} {around : Surroundings} {name : String} {t : ComposedTemplate} {data : Value}
    {escaped : List String} {other : String}
    (h : (compose order source v helpers).run.1 = .ok r) (ht : r.lookup name = some t)
    (hl : linksOf t.source = some []) (hd : data = .null ∨ ∃ fields, data = .obj fields)
    (he : Engine.escapes ⟨[], helpers.get?, escaped⟩ other = v.autoescape) :
    ∃ alone, Registry.alone helpers escaped other t.source = .ok alone ∧
      (∀ room,
        (r.renderInto around room name data).1 = (alone.renderInto around room other data).1 ∧
          ((r.renderInto around room name data).2.isOk ↔
            (alone.renderInto around room other data).2.isOk)) ∧
      (r.renderToString around name data).toOption =
        (alone.renderToString around other data).toOption := by
  have made := wellMade_of_compose h
  obtain ⟨template, htemplate, compiled⟩ := made.of_lookup ht
  obtain ⟨library, read⟩ := compiled.read
  obtain ⟨fields, hfields⟩ : ∃ fields, dataFields? data = some fields := by
    rcases hd with rfl | ⟨fields, rfl⟩
    · exact ⟨[], rfl⟩
    · exact ⟨fields, rfl⟩
  have unlinked := read.unlinked hl
  have hname : template.name = name := compiled.name.trans (made.named ht)
  have same := sameText_alone made htemplate hname unlinked around fields he
  have hread := unlinked.ofSource_nil read other
  let alone : Registry := ⟨[(other, ⟨⟨other⟩, t.source, "", "", ""⟩)],
    [(other, { template with name := other })], helpers.get?, escaped⟩
  have here : alone.lookup other = some ⟨⟨other⟩, t.source, "", "", ""⟩ := by
    show List.lookup other [(other, _)] = _
    rw [Sorted.lookup_cons_pair, if_pos rfl]
  have alike : ∀ room,
      (r.renderInto around room name data).1 = (alone.renderInto around room other data).1 ∧
        ((r.renderInto around room name data).2.isOk ↔
          (alone.renderInto around room other data).2.isOk) := by
    intro room
    obtain ⟨taken, -, -, faults⟩ := same.twin.runInto_parallel room (Job.depth _ t.source)
    rw [Registry.renderInto_eq ht htemplate hfields, Registry.renderInto_eq here same.here₂ hfields]
    refine ⟨congrArg Sink.bytes taken, ?_⟩
    rw [isOk_mapError, isOk_mapError, Outcome.ended_isOk, Outcome.ended_isOk]
    exact not_congr faults
  refine ⟨alone, ?_, alike, ?_⟩
  · unfold Registry.alone
    rw [hread]
    rfl
  · obtain ⟨taken, ended⟩ := alike none
    show ((r.renderInto around none name data).2.map fun _ =>
      Text.decodeLossy (r.renderInto around none name data).1).toOption = _
    rw [taken]
    exact toOption_map_alike ended _

def greetingEntry : ComposedTemplate where
  name := ⟨"plain:about"⟩
  source :=
    "{{ greet() }}{{ x | default(value=range(end=1)) }}{% if false %}{{ greet() }}{% endif %}"
  label := "about.html.tera"
  layoutPath := "layouts/plain.html.tera"
  pagePath := "pages/about.html.tera"

theorem greeting_lookup : greetingRegistry.lookup "plain:about" = some greetingEntry := by
  decide +kernel

theorem render_alone_greeting :
    ∃ alone, Registry.alone greeters [".html"] "alone.html" greetingEntry.source = .ok alone ∧
      (∀ room,
        (greetingRegistry.renderInto .bare room "plain:about" .null).1 =
            (alone.renderInto .bare room "alone.html" .null).1 ∧
          ((greetingRegistry.renderInto .bare room "plain:about" .null).2.isOk ↔
            (alone.renderInto .bare room "alone.html" .null).2.isOk)) ∧
      (greetingRegistry.renderToString .bare "plain:about" .null).toOption =
        (alone.renderToString .bare "alone.html" .null).toOption :=
  render_alone greeting_ok greeting_lookup (by decide +kernel) (.inl rfl) (by decide +kernel)

end ViewWeave
