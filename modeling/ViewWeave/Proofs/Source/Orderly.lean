import ViewWeave.Proofs.Source.Paths

/-!
# Sources that list in order

A source that lists the children of a directory, each once and by name, leads a scan to each
fragment once and in the order of their parts: what lies in a child stands where the child stands.
-/

namespace ViewWeave

open EmbeddedSource (trimmed)

theorem trimmed_trimmed (x : String) : trimmed (trimmed x) = trimmed x := by
  unfold trimmed
  rw [String.toList_ofList, Text.trimOf_trimOf]

namespace ViewSource

/-- What a source lists of a directory are children of it, in ascending order. -/
structure Orderly (source : ViewSource) : Prop where
  child : ∀ {dir entries}, source.list dir = .ok entries → ∀ e ∈ entries,
    ∃ n, (n ≠ "" ∧ '/' ∉ n.toList) ∧ e.path = childOf (trimmed dir) n
  ascending : ∀ {dir entries}, source.list dir = .ok entries →
    entries.Pairwise fun a b => a.path < b.path

section
variable {source : ViewSource} {ext : String}

variable (h : source.Orderly)
include h

/-- The entries of a directory are themselves trimmed, so that they are listed as they are
spelled. -/
theorem Orderly.trimmed_child {dir : String} {entries : List Entry}
    (hl : source.list dir = .ok entries)
    {e : Entry} (he : e ∈ entries) : trimmed e.path = e.path := by
  obtain ⟨n, name, path⟩ := h.child hl e he
  rw [path, childOf_trimmed (trimmed_trimmed dir) name]

theorem Orderly.below_child {dir : String} {entries : List Entry}
    (hl : source.list dir = .ok entries)
    {e : Entry} (he : e ∈ entries) : Below (trimmed dir) e.path := by
  obtain ⟨n, name, path⟩ := h.child hl e he
  rw [path]
  exact below_childOf _ name

theorem Orderly.found_below : ∀ {n : Nat} {dir x : String}, x ∈ source.found ext n dir →
    Below (trimmed dir) x
  | 0, _, _, hx => absurd hx List.not_mem_nil
  | n + 1, dir, x, hx => by
    cases hl : source.list dir with
    | error e =>
      rw [found_of_error hl] at hx
      exact absurd hx List.not_mem_nil
    | ok entries =>
      obtain ⟨e, he, inside⟩ := (mem_found_succ hl).mp hx
      have child := h.below_child hl he
      by_cases hd : e.isDir
      · rw [if_pos hd] at inside
        have deeper := Orderly.found_below inside
        rw [h.trimmed_child hl he] at deeper
        exact child.trans deeper
      · rw [if_neg hd] at inside
        rwa [inside.1]

/-- What is found in an entry has all parts of the entry in front. -/
theorem Orderly.parts_prefix {n : Nat} {dir x : String} {entries : List Entry}
    (hl : source.list dir = .ok entries) {e : Entry} (he : e ∈ entries)
    (hx : x ∈ source.foundAt ext n e) : pathParts e.path <+: pathParts x := by
  have inside := mem_foundAt.mp hx
  by_cases hd : e.isDir
  · rw [if_pos hd] at inside
    have below := h.found_below inside
    rw [h.trimmed_child hl he] at below
    exact below.1
  · rw [if_neg hd] at inside
    obtain ⟨rfl, -⟩ := inside
    exact List.prefix_rfl

/-- **Order.** What is found ascends part by part, so nothing is found twice. -/
theorem Orderly.found_ascends : ∀ (n : Nat) (dir : String), PartsAscend (source.found ext n dir)
  | 0, _ => List.Pairwise.nil
  | n + 1, dir => by
    cases hl : source.list dir with
    | error e =>
      rw [found_of_error hl]
      exact List.Pairwise.nil
    | ok entries =>
      rw [found_of_ok hl]
      refine List.pairwise_flatMap.mpr ⟨fun e _ => ?each, ?across⟩
      case each =>
        unfold foundAt
        split
        · exact Orderly.found_ascends n e.path
        · split
          · exact List.pairwise_singleton _ _
          · exact List.Pairwise.nil
      case across =>
        -- the parts that two entries do not share decide, and what is found in them has these parts
        refine (h.ascending hl).imp_of_mem fun {a b} ha hb less x hx y hy => ?_
        obtain ⟨m, nameA, pathA⟩ := h.child hl a ha
        obtain ⟨k, nameB, pathB⟩ := h.child hl b hb
        obtain ⟨r, partsX⟩ := h.parts_prefix hl ha hx
        obtain ⟨r', partsY⟩ := h.parts_prefix hl hb hy
        rw [pathA, pathB] at less
        rw [pathA, pathParts_childOf _ nameA, List.append_assoc] at partsX
        rw [pathB, pathParts_childOf _ nameB, List.append_assoc] at partsY
        exact partBytes_lt (lt_of_childOf_lt less) partsX.symm partsY.symm

end

end ViewSource

end ViewWeave
