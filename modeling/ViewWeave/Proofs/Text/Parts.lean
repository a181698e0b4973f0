import ViewWeave.Text.Blank
import ViewWeave.Text.Replace
import Mathlib.Data.List.Basic

/-!
# Parts of a text

What is cut out of a text has only characters that the text has.
-/

namespace ViewWeave.Text

/-! ## Trimming -/

theorem trimStart_subset (s : List Char) : trimStart s ⊆ s := (List.dropWhile_suffix _).subset

theorem trimEnd_subset (s : List Char) : trimEnd s ⊆ s := by
  intro c hc
  have h := (List.dropWhile_suffix isBlank).subset (List.mem_reverse.mp hc)
  simpa using h

theorem trim_subset (s : List Char) : trim s ⊆ s :=
  List.Subset.trans (trimEnd_subset _) (trimStart_subset s)

/-! ## Pieces -/

theorem breakOn?_subset {p s a b : List Char} (h : breakOn? p s = some (a, b)) : a ⊆ s ∧ b ⊆ s := by
  induction s generalizing a b with
  | nil =>
    unfold breakOn? at h
    split at h
    · cases h
      simp
    · cases h
  | cons c cs ih =>
    unfold breakOn? at h
    split at h
    · rename_i rest hrest
      cases h
      exact ⟨List.nil_subset _, dropStart?_eq_some_iff.mp hrest ▸ List.subset_append_right _ _⟩
    · obtain ⟨⟨x, y⟩, hxy, heq⟩ := Option.map_eq_some_iff.mp h
      cases heq
      obtain ⟨hx, hy⟩ := ih hxy
      exact ⟨List.cons_subset_cons c hx, List.Subset.trans hy (List.subset_cons_self c cs)⟩

theorem pieces_subset {p w : List Char} : ∀ {n : Nat} {s : List Char}, w ∈ pieces p n s → w ⊆ s
  | 0, s, h => by
    rw [pieces, List.mem_singleton] at h
    exact h ▸ List.Subset.refl _
  | n + 1, s, h => by
    unfold pieces at h
    split at h
    · rw [List.mem_singleton] at h
      exact h ▸ List.Subset.refl _
    · rename_i a b hab
      obtain ⟨ha, hb⟩ := breakOn?_subset hab
      rcases List.mem_cons.mp h with rfl | h
      · exact ha
      · exact List.Subset.trans (pieces_subset h) hb

theorem splitBy_subset {p s w : List Char} (h : w ∈ splitBy p s) : w ⊆ s := by
  unfold splitBy at h
  split at h
  · simp only [List.mem_cons, List.mem_append, List.mem_map, List.not_mem_nil, or_false] at h
    rcases h with rfl | ⟨c, hc, rfl⟩ | rfl
    · exact List.nil_subset _
    · simpa using hc
    · exact List.nil_subset _
  · exact pieces_subset h

end ViewWeave.Text
