import ViewWeave.Markup.Links
import ViewWeave.Markup.Template

/-!
# Templates and their texts

A template is read from a text just if its parts are those of the text's nodes and all that it
builds on is at hand. A text without links builds on nothing.
-/

namespace ViewWeave

/-! ## Reading templates -/

/-- What it takes to be the template of a text: the text is read, and all that it builds on is in
the library. -/
structure Template.ReadFrom (library : Library) (source : String) (t : Template) : Prop where
  nodes : readNodes source = .ok t.nodes
  parent : t.parent = parentOf t.nodes
  parents : parentsOf library t.name (parentOf t.nodes) = .ok t.parents
  imports : t.imports = importsOf t.nodes
  present : t.imports.find? (fun (f, _) => f != t.name && (library.lookup f).isNone) = none
  blocks : t.blocks = blocksOf t.nodes
  macros : t.macros = macrosOf t.nodes

theorem Template.ofSource_eq_ok_iff {library : Library} {name source : String} {t : Template} :
    Template.ofSource library name source = .ok t ↔ t.name = name ∧ t.ReadFrom library source := by
  unfold Template.ofSource
  cases hn : readNodes source with
  | error fault => exact ⟨fun h => (nomatch h), fun h => (nomatch hn.symm.trans h.2.nodes)⟩
  | ok nodes =>
    show (parentsOf library name (parentOf nodes) >>= fun parents => _) = _ ↔ _
    cases hp : parentsOf library name (parentOf nodes) with
    | error fault =>
      refine ⟨fun h => (nomatch h), ?_⟩
      rintro ⟨rfl, h⟩
      cases hn.symm.trans h.nodes
      cases hp.symm.trans h.parents
    | ok parents =>
      dsimp only [bind, Except.bind]
      cases hf : (importsOf nodes).find? fun (f, _) => f != name && (library.lookup f).isNone with
      | some missing =>
        refine ⟨fun h => (nomatch h), ?_⟩
        rintro ⟨rfl, h⟩
        cases hn.symm.trans h.nodes
        have present := h.present
        rw [h.imports] at present
        cases hf.symm.trans present
      | none =>
        constructor
        · intro h
          cases h
          exact ⟨rfl, hn, rfl, hp, rfl, hf, rfl, rfl⟩
        · rintro ⟨rfl, h⟩
          cases hn.symm.trans h.nodes
          cases hp.symm.trans h.parents
          obtain ⟨-, parent, -, imports, -, blocks, macros⟩ := h
          cases t
          dsimp only at *
          rw [parent, imports, blocks, macros]
          rfl

/-! ## Texts without links -/

def linksOf (source : String) : Option (List (List String)) :=
  (readNodes source).toOption.map linksOfNodes

theorem linksOfNodes_eq_flatMap (ns : List Node) : linksOfNodes ns = ns.flatMap Node.links := by
  induction ns with
  | nil => rw [linksOfNodes, List.flatMap_nil]
  | cons n ns ih => rw [linksOfNodes, List.flatMap_cons, ih]

section
variable {ns : List Node} (h : linksOfNodes ns = [])
include h

theorem links_eq_nil {n : Node} (hn : n ∈ ns) : n.links = [] := by
  rw [linksOfNodes_eq_flatMap] at h
  exact List.flatMap_eq_nil_iff.mp h n hn

theorem parentOf_eq_none : parentOf ns = none := by
  unfold parentOf
  rw [List.getLast?_eq_none_iff, List.filterMap_eq_nil_iff]
  intro n hn
  have hl := links_eq_nil h hn
  cases n with
  | extend _ _ => cases hl
  | _ => rfl

theorem importsOf_eq_nil : importsOf ns = [] := by
  unfold importsOf
  rw [List.filterMap_eq_nil_iff]
  intro n hn
  have hl := links_eq_nil h hn
  cases n with
  | importing _ _ _ => cases hl
  | _ => rfl

end

end ViewWeave
