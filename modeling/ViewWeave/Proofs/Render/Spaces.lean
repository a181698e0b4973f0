import ViewWeave.Proofs.Data.Table
import ViewWeave.Render.Spaces

/-!
# Macros of a library

What holds of all macros of the templates in a library holds of every macro that one of them can
see, through whatever imports.
-/

namespace ViewWeave

namespace Spaces

variable {Q : Template × Macro → Prop}

def All (Q : Template × Macro → Prop) (spaces : Spaces) : Prop :=
  ∀ s ∈ spaces, ∀ m ∈ s.2, Q m.2

theorem All.extend {spaces more : Spaces} (h : All Q spaces) (hm : All Q more) :
    All Q (spaces.extend more) := by
  unfold Spaces.extend
  induction more generalizing spaces with
  | nil => exact h
  | cons s more ih =>
    refine ih ?_ fun x hx => hm x (List.mem_cons_of_mem _ hx)
    dsimp only
    split
    · exact h
    · intro x hx
      rcases List.mem_append.mp hx with hx | hx
      · exact h x hx
      · rw [List.mem_singleton.mp hx]
        exact hm s (List.mem_cons_self ..)

theorem All.put {spaces : Spaces} {table : MacroTable} (h : All Q spaces)
    (ht : ∀ m ∈ table, Q m.2) (space : String) : All Q (spaces.put space table) := by
  intro x hx
  rcases Sorted.mem_insert hx with rfl | hx
  · exact ht
  · exact h x hx

end Spaces

/-! ## Macros that are found -/

section
variable {W : Template → Prop} {Q : Template × Macro → Prop} {library : Library}
  (hq : ∀ {t : Template}, W t → ∀ m ∈ t.macroTable, Q m.2)
  (hl : ∀ name u, library.lookup name = some u → W u)
include hq hl

theorem Template.spaces_all {seen : Template → Spaces} (hs : ∀ u, W u → Spaces.All Q (seen u))
    {t : Template} (ht : W t) : Spaces.All Q (t.spaces library seen) := by
  unfold Template.spaces
  dsimp only
  -- own macros first, then those of the imports, then those of the templates below
  refine List.foldlRecOn t.parents _ ?_ fun spaces h p _ => ?_
  · refine List.foldlRecOn t.imports _ ?_ fun spaces h i _ => ?_
    · split
      · exact fun s hs => absurd hs List.not_mem_nil
      · intro s hs
        rw [List.mem_singleton.mp hs]
        exact hq ht
    · split
      · rename_i u hu
        exact (h.put (hq (hl _ u hu)) _).extend (hs u (hl _ u hu))
      · exact h
  · split
    · rename_i u hu
      exact h.extend (hs u (hl _ u hu))
    · exact h

theorem Library.spaces_all : ∀ (n : Nat) {t : Template}, W t → Spaces.All Q (library.spaces n t)
  | 0, _, _ => fun _ hs => absurd hs List.not_mem_nil
  | n + 1, _, ht => Template.spaces_all hq hl (fun _ hu => Library.spaces_all n hu) ht

theorem Library.findMacro_all {template space name : String} {m : Template × Macro}
    (h : library.findMacro template space name = .ok m) : Q m := by
  unfold Library.findMacro at h
  dsimp only at h
  split at h
  · cases h
  rename_i table htable
  split at h
  · rename_i found hfound
    cases h
    have hmem := Sorted.mem_of_lookup htable
    cases ht : library.lookup template with
    | none =>
      rw [ht] at hmem
      exact absurd hmem List.not_mem_nil
    | some t =>
      rw [ht] at hmem
      exact Library.spaces_all hq hl _ (hl _ t ht) _ hmem _ (Sorted.mem_of_lookup hfound)
  · cases h

end

end ViewWeave
