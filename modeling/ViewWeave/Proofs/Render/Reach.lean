import ViewWeave.Proofs.Render.NodeTwin
import ViewWeave.Proofs.Render.Spaces

/-!
# What a rendering can reach

A template that only does what it may has only such blocks and macros. If that holds of all
templates in a library, it holds of every macro that one of them can see, through whatever imports.
-/

namespace ViewWeave

/-! ## Blocks and macros -/

namespace Permit

variable {P : Permit}

mutual

theorem nodes_of_blocks : ∀ {ns : List Node}, P.Nodes ns → ∀ b ∈ blocksOf ns, P.Nodes b.2
  | [], _, _, hb => absurd hb (by simp [blocksOf])
  | n :: ns, h, b, hb => by
    obtain ⟨hn, hns⟩ := nodes_cons h
    rw [blocksOf, List.mem_append] at hb
    rcases hb with hb | hb
    · exact tag_blocks hn b hb
    · exact nodes_of_blocks hns b hb

theorem tag_blocks : ∀ {n : Node}, P.Tag n → ∀ b ∈ n.blocks, P.Nodes b.2
  | .block _ name body _, h, b, hb => by
    have hbody : P.Nodes body := ⟨h.calls, h.links⟩
    rw [Node.blocks, List.mem_cons] at hb
    rcases hb with rfl | hb
    · exact hbody
    · exact nodes_of_blocks hbody b hb
  | .text _, _, _, hb | .raw _ _ _, _, _, hb | .comment _, _, _, hb | .super, _, _, hb
  | .extend _ _, _, _, hb | .importing _ _ _, _, _, hb | .output _ _, _, _, hb
  | .set _ _ _ _, _, _, hb | .inclusion _ _ _, _, _, hb | .loop _ _ _ _ _ _ _, _, _, hb
  | .cond _ _ _, _, _, hb | .filtered _ _ _ _, _, _, hb | .define _ _ _ _ _, _, _, hb
  | .stop _, _, _, hb | .next _, _, _, hb => absurd hb (by simp [Node.blocks])

end

theorem definition_of_macros :
    ∀ {ns : List Node}, P.Nodes ns → ∀ m ∈ macrosOf ns, P.Definition m.2
  | [], _, _, hm => absurd hm List.not_mem_nil
  | n :: ns, h, m, hm => by
    obtain ⟨hn, hns⟩ := nodes_cons h
    obtain ⟨k, hk, hkm⟩ := List.mem_filterMap.mp hm
    rcases List.mem_cons.mp hk with rfl | hk
    · cases k with
      | define _ _ params body _ =>
        cases hkm
        obtain ⟨hc, hl⟩ := hn
        rw [Node.calls, calls_append] at hc
        exact ⟨hc.1, hc.2, hl⟩
      | _ => cases hkm
    · exact definition_of_macros hns m (List.mem_filterMap.mpr ⟨k, hk, hkm⟩)

structure Whole (P : Permit) (t : Template) : Prop where
  nodes : P.Nodes t.nodes
  blocks : ∀ b ∈ t.blocks, P.Nodes b.2
  macros : ∀ m ∈ t.macros, P.Definition m.2

def Covers (P : Permit) (library : Library) : Prop :=
  ∀ name u, library.lookup name = some u → P.Whole u

end Permit

/-! ## Macros that are found -/

section
variable {P : Permit} {library : Library}

/-- A template with a macro of its own, both of which only do what they may. -/
def OwnMacro (P : Permit) (m : Template × Macro) : Prop := P.Whole m.1 ∧ P.Definition m.2

theorem Permit.Whole.macroTable {t : Template} (h : P.Whole t) :
    ∀ m ∈ t.macroTable, OwnMacro P m.2 := by
  intro m hm
  obtain ⟨x, hx, rfl⟩ := List.mem_map.mp hm
  exact ⟨h, h.macros x hx⟩

theorem Library.findMacro_own (hl : P.Covers library) {template space name : String}
    {m : Template × Macro} (h : library.findMacro template space name = .ok m) : OwnMacro P m :=
  Library.findMacro_all Permit.Whole.macroTable hl h

end

end ViewWeave
