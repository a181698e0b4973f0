import ViewWeave.Proofs.Compose.Product

/-!
# The entries of a registry

Each entry was made of one layout file and one page file and is found under its name, and no two
entries have one name. So all that is told of a registry can be told of its entries one by one.
-/

namespace ViewWeave

def entryAt (source : ViewSource) (v : ViewLayout) (layoutPath pagePath : String) :
    ComposedTemplate :=
  entryOf (v.short .layout) (v.short .page) source.text (files source v .shared) layoutPath pagePath

theorem pairsOf_eq_entries (source : ViewSource) (v : ViewLayout) : pairsOf source v =
    (files source v .layout ×ˢ files source v .page).map fun lp => entryAt source v lp.1 lp.2 :=
  pairsOf_eq_product

theorem mem_pairsOf {source : ViewSource} {v : ViewLayout} {t : ComposedTemplate} :
    t ∈ pairsOf source v ↔
    ∃ l ∈ files source v .layout, ∃ p ∈ files source v .page, entryAt source v l p = t := by
  rw [pairsOf_eq_entries]
  simp only [List.mem_map, Prod.exists, List.mem_product]
  constructor
  · rintro ⟨l, p, ⟨hl, hp⟩, h⟩
    exact ⟨l, hl, p, hp, h⟩
  · rintro ⟨l, hl, p, hp, h⟩
    exact ⟨l, p, ⟨hl, hp⟩, h⟩

theorem length_pairsOf (source : ViewSource) (v : ViewLayout) :
    (pairsOf source v).length =
      (files source v .layout).length * (files source v .page).length := by
  rw [pairsOf_eq_entries, List.length_map, List.length_product]

/-! ## Entries by name -/

section
variable {v : ViewLayout} {helpers : Helpers} {ts : List ComposedTemplate}

theorem Distinct.registryOf_perm (h : Distinct ts) : (registryOf v helpers ts).toList.Perm ts := by
  show ((tableOf ts).map (·.2)).Perm ts
  have all := h.tableOf_perm.map (·.2)
  simpa [Function.comp_def] using all

theorem Distinct.size_registryOf (h : Distinct ts) :
    (registryOf v helpers ts).size = ts.length := by
  have all := h.tableOf_perm.length_eq
  rwa [List.length_map] at all

theorem Distinct.registryOf_names (h : Distinct ts) :
    (registryOf v helpers ts).toList.map (fun t => t.name.text) =
      (registryOf v helpers ts).names := by
  unfold Registry.toList Registry.names
  rw [List.map_map]
  apply List.map_congr_left
  intro e he
  exact (h.mem_tableOf.mp he).2

theorem ascending_registryOf (ts : List ComposedTemplate) :
    (registryOf v helpers ts).names.Pairwise fun m n => Text.utf8 m < Text.utf8 n := by
  have ascending : Sorted.Ascending (tableOf ts) := Sorted.ascending_ofList _
  exact List.pairwise_map.mpr (ascending.imp Text.utf8_lt_utf8)

theorem Distinct.lookup_registryOf (h : Distinct ts) {name : String} {t : ComposedTemplate} :
    (registryOf v helpers ts).lookup name = some t ↔ t ∈ ts ∧ t.name.text = name := by
  rw [← h.mem_tableOf]
  exact ⟨Sorted.mem_of_lookup, Sorted.lookup_of_mem (Sorted.ascending_ofList _)⟩

end

/-! ## Composed registries -/

section
variable {order : WalkOrder} {source : ViewSource} {v : ViewLayout} {helpers : Helpers}
  {r : Registry} (h : (compose order source v helpers).run.1 = .ok r)
include h

theorem mem_toList {t : ComposedTemplate} : t ∈ r.toList ↔
    ∃ l ∈ files source v .layout, ∃ p ∈ files source v .page, entryAt source v l p = t := by
  obtain ⟨good, rfl⟩ := compose_ok h
  rw [good.distinct.registryOf_perm.mem_iff, mem_pairsOf]

theorem size_eq : r.size = (files source v .layout).length * (files source v .page).length := by
  obtain ⟨good, rfl⟩ := compose_ok h
  rw [good.distinct.size_registryOf, length_pairsOf]

theorem lookup_eq_some_iff {name : String} {t : ComposedTemplate} :
    r.lookup name = some t ↔ t ∈ r.toList ∧ t.name.text = name := by
  obtain ⟨good, rfl⟩ := compose_ok h
  rw [good.distinct.lookup_registryOf, good.distinct.registryOf_perm.mem_iff]

theorem ascending_toList :
    (r.toList.map fun t => t.name.text).Pairwise fun m n => Text.utf8 m < Text.utf8 n := by
  obtain ⟨good, rfl⟩ := compose_ok h
  rw [good.distinct.registryOf_names]
  exact ascending_registryOf _

theorem lookup_eq_none_iff {name : String} :
    r.lookup name = none ↔ name ∉ r.toList.map fun t => t.name.text := by
  rw [Option.eq_none_iff_forall_ne_some, List.mem_map]
  constructor
  · rintro none ⟨t, ht, rfl⟩
    exact none t ((lookup_eq_some_iff h).mpr ⟨ht, rfl⟩)
  · intro none t ht
    exact none ⟨t, (lookup_eq_some_iff h).mp ht⟩

end

end ViewWeave
