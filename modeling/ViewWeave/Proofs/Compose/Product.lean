import ViewWeave.Proofs.Compose.Failures
import ViewWeave.Proofs.View.Name
import ViewWeave.Source.Embedded
import Mathlib.Data.List.ProdSigma

/-!
# What a registry holds

A registry holds one template for each layout and each page, and nothing else. Its table is filled
pair by pair, and as no pair is refused for its name, none is lost and none takes another's place.
-/

namespace ViewWeave

section
variable {order : WalkOrder} {source : ViewSource} {v : ViewLayout} {helpers : Helpers}
  {r : Registry}

/-! ## Pairs as a product -/

/-- The entry of a layout and a page in a registry, for functions that give the short names and the
contents of files. -/
def entryOf (layoutShort pageShort content : String → String) (shared : List String)
    (layoutPath pagePath : String) : ComposedTemplate where
  name := ⟨layoutShort layoutPath ++ ":" ++ pageShort pagePath⟩
  source := content layoutPath ++ content pagePath ++ String.join (shared.map content)
  label := baseName pagePath
  layoutPath := layoutPath
  pagePath := pagePath

theorem pairsOf_eq_product : pairsOf source v =
    (files source v .layout ×ˢ files source v .page).map fun lp =>
      entryOf (v.short .layout) (v.short .page) source.text (files source v .shared) lp.1 lp.2 := by
  have pair : ∀ l p, pairUp (String.join ((files source v .shared).map source.text))
      (namedFragment source v .layout l) (namedFragment source v .page p) =
        entryOf (v.short .layout) (v.short .page) source.text (files source v .shared) l p := by
    intro l p
    unfold pairUp entryOf
    rw [TemplateName.ofParts_eq]
    rfl
  show _ = ((files source v .layout).flatMap fun l => (files source v .page).map (Prod.mk l)).map _
  unfold pairsOf pairs
  rw [List.flatMap_map, List.map_flatMap]
  simp only [List.map_map, Function.comp_def, pair]

/-! ## Registries -/

/-- The registry holds one entry for each of these layouts and pages, under the name made of their
short names, and no other entry. Its names ascend in the order of their bytes. -/
structure HoldsProduct (source : ViewSource) (v : ViewLayout) (r : Registry)
    (layouts pages shared : List String) (layoutShort pageShort content : String → String) :
    Prop where
  scanned_layouts : (scan source (v.root .layout) .layout v.fragmentExtension).run.1 = .ok layouts
  scanned_pages : (scan source (v.root .page) .page v.fragmentExtension).run.1 = .ok pages
  scanned_shared : (scan source (v.root .shared) .shared v.fragmentExtension).run.1 = .ok shared
  layout : ∀ l ∈ layouts, v.layoutShort? l = some (layoutShort l) ∧ source.read l = .ok (content l)
  page : ∀ p ∈ pages, v.pageShort? p = some (pageShort p) ∧ source.read p = .ok (content p)
  shared_read : ∀ s ∈ shared, source.read s = .ok (content s)
  size : r.size = layouts.length * pages.length
  entries : r.toList.Perm ((layouts ×ˢ pages).map fun lp =>
    entryOf layoutShort pageShort content shared lp.1 lp.2)
  lookup : ∀ l ∈ layouts, ∀ p ∈ pages, r.lookup (layoutShort l ++ ":" ++ pageShort p) =
    some (entryOf layoutShort pageShort content shared l p)
  names : r.toList.map (fun t => t.name.text) = r.names
  ascending : r.names.Pairwise fun m n => Text.utf8 m < Text.utf8 n
  listed : ∀ n, (r.lookup n).isSome ↔ n ∈ r.names

/-- **The product.** Every registry that is composed holds the product of the layouts and the pages
that were scanned. -/
theorem compose_product (h : (compose order source v helpers).run.1 = .ok r) :
    ∃ layouts pages shared layoutShort pageShort content,
      HoldsProduct source v r layouts pages shared layoutShort pageShort content := by
  obtain ⟨good, rfl⟩ := compose_ok h
  have hd := good.distinct
  have perm : (registryOf v helpers (pairsOf source v)).toList.Perm (pairsOf source v) := by
    have hp := hd.tableOf_perm.map (·.2)
    rwa [List.map_map, show (·.2) ∘ (fun t : ComposedTemplate => (t.name.text, t)) = id from rfl,
      List.map_id] at hp
  have ascending : Sorted.Ascending (tableOf (pairsOf source v)) := Sorted.ascending_ofList _
  refine ⟨files source v .layout, files source v .page, files source v .shared, v.short .layout,
    v.short .page, source.text, ?_⟩
  exact {
    scanned_layouts := good.scan .layout
    scanned_pages := good.scan .page
    scanned_shared := good.scan .shared
    layout := fun l hl => good.file Role.noConfusion hl
    page := fun p hp => good.file Role.noConfusion hp
    shared_read := fun s hs => good.sharedRead hs
    size := by
      calc (registryOf v helpers (pairsOf source v)).size
        _ = (registryOf v helpers (pairsOf source v)).toList.length := (List.length_map _).symm
        _ = (pairsOf source v).length := perm.length_eq
        _ = (files source v .layout).length * (files source v .page).length := by
          rw [pairsOf_eq_product, List.length_map, List.length_product]
    entries := perm.trans (.of_eq pairsOf_eq_product)
    lookup := by
      intro l hl p hp
      refine Sorted.lookup_of_mem ascending (hd.mem_tableOf.mpr ⟨?_, rfl⟩)
      rw [pairsOf_eq_product]
      exact List.mem_map.mpr ⟨(l, p), List.mem_product.mpr ⟨hl, hp⟩, rfl⟩
    names := by
      rw [Registry.toList, Registry.names, List.map_map]
      exact List.map_congr_left fun e he => (hd.mem_tableOf.mp he).2
    ascending := List.pairwise_map.mpr (ascending.imp Text.utf8_lt_utf8)
    listed := fun n => Sorted.lookup_isSome_iff }

end

def fourPairs : ViewSource :=
  (EmbeddedSource.ofFiles [
    ("layouts/plain.html.tera", "<p>"), ("layouts/bare.html.tera", ""),
    ("pages/about.html.tera", "A"), ("pages/auth/login.html.tera", "L"),
    ("shared/foot.tera", "</p>")]).toSource

theorem fourPairs_ok : (compose .lastFirst fourPairs .standard .empty).run.1 =
    .ok (registryOf .standard .empty (pairsOf fourPairs .standard)) :=
  compose_of_failures (by decide +kernel)

theorem compose_product_fourPairs :
    (registryOf .standard .empty (pairsOf fourPairs .standard)).names =
        ["bare:about", "bare:auth/login", "plain:about", "plain:auth/login"] ∧
      ∃ layouts pages shared layoutShort pageShort content,
        HoldsProduct fourPairs .standard (registryOf .standard .empty (pairsOf fourPairs .standard))
          layouts pages shared layoutShort pageShort content :=
  ⟨by decide +kernel, compose_product fourPairs_ok⟩

end ViewWeave
