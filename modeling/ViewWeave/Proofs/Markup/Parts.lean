import ViewWeave.Markup.Template

/-!
# The nodes inside nodes

All nodes of a template, wherever they stand. What holds of all of them holds of all nodes in a
block or a macro of the template.
-/

namespace ViewWeave

mutual

def Node.parts : Node → List Node
  | .block o n body c => .block o n body c :: partsOf body
  | .loop o k v e body empty c => .loop o k v e body empty c :: (partsOf body ++ partsOf empty)
  | .cond bs (some (m, body)) c =>
    .cond bs (some (m, body)) c :: (partsOfBranches bs ++ partsOf body)
  | .cond bs none c => .cond bs none c :: partsOfBranches bs
  | .filtered o f body c => .filtered o f body c :: partsOf body
  | .define o n ps body c => .define o n ps body c :: partsOf body
  | n => [n]

def partsOf : List Node → List Node
  | [] => []
  | n :: ns => n.parts ++ partsOf ns

def partsOfBranches : List Branch → List Node
  | [] => []
  | .mk _ _ body :: bs => partsOf body ++ partsOfBranches bs

end

def Every (P : Node → Prop) (ns : List Node) : Prop := ∀ n ∈ partsOf ns, P n

def Node.Within (P : Node → Prop) (n : Node) : Prop := ∀ m ∈ n.parts, P m

section
variable {P : Node → Prop}

theorem every_nil : Every P [] := fun _ h => nomatch h

theorem every_cons {n : Node} {ns : List Node} : Every P (n :: ns) ↔ n.Within P ∧ Every P ns :=
  List.forall_mem_append

theorem every_iff {ns : List Node} : Every P ns ↔ ∀ n ∈ ns, n.Within P := by
  induction ns with
  | nil => simp [every_nil]
  | cons n ns ih => simp [every_cons, ih]

theorem every_append {ns ms : List Node} : Every P (ns ++ ms) ↔ Every P ns ∧ Every P ms := by
  simp [every_iff, or_imp, forall_and]

theorem every_branches {bs : List Branch} :
    (∀ n ∈ partsOfBranches bs, P n) ↔ ∀ b ∈ bs, Every P b.body := by
  induction bs with
  | nil => exact iff_of_true (fun _ h => nomatch h) (fun _ h => nomatch h)
  | cons b bs ih =>
    cases b with
    | mk marks e body =>
      show (∀ n ∈ partsOf body ++ partsOfBranches bs, P n) ↔ _
      rw [List.forall_mem_append, ih, List.forall_mem_cons]
      rfl

namespace Node

theorem Within.self {n : Node} (h : n.Within P) : P n := by
  refine h n ?_
  cases n with
  | cond _ o _ =>
    cases o with
    | none => exact List.mem_cons_self ..
    | some o => exact List.mem_cons_self ..
  | _ => exact List.mem_cons_self ..

theorem within_block {o c : Marks} {name : String} {body : List Node} :
    (block o name body c).Within P ↔ P (block o name body c) ∧ Every P body :=
  List.forall_mem_cons

theorem within_loop {o c : Marks} {key : Option String} {value : String} {e : Expr}
    {body empty : List Node} : (loop o key value e body empty c).Within P ↔
      P (loop o key value e body empty c) ∧ Every P body ∧ Every P empty :=
  List.forall_mem_cons.trans (and_congr_right fun _ => List.forall_mem_append)

theorem within_cond {bs : List Branch} {otherwise : Option (Marks × List Node)} {c : Marks} :
    (cond bs otherwise c).Within P ↔ P (cond bs otherwise c) ∧ (∀ b ∈ bs, Every P b.body) ∧
      Every P ((otherwise.map (·.2)).getD []) := by
  rw [← every_branches]
  cases otherwise with
  | none =>
    exact List.forall_mem_cons.trans (and_congr_right fun _ => (and_iff_left every_nil).symm)
  | some o => exact List.forall_mem_cons.trans (and_congr_right fun _ => List.forall_mem_append)

theorem within_filtered {o c : Marks} {f : Call} {body : List Node} :
    (filtered o f body c).Within P ↔ P (filtered o f body c) ∧ Every P body :=
  List.forall_mem_cons

theorem within_define {o c : Marks} {name : String} {params : List Param} {body : List Node} :
    (define o name params body c).Within P ↔ P (define o name params body c) ∧ Every P body :=
  List.forall_mem_cons

end Node

/-! ## Blocks and macros -/

mutual

theorem every_of_blocks : ∀ {ns : List Node}, Every P ns → ∀ b ∈ blocksOf ns, Every P b.2
  | [], _, _, hb => by simp [blocksOf] at hb
  | n :: ns, h, b, hb => by
    obtain ⟨hn, hns⟩ := every_cons.mp h
    rw [blocksOf, List.mem_append] at hb
    rcases hb with hb | hb
    · exact within_blocks hn b hb
    · exact every_of_blocks hns b hb

theorem within_blocks : ∀ {n : Node}, n.Within P → ∀ b ∈ n.blocks, Every P b.2
  | .block _ name body _, h, b, hb => by
    have hbody := (Node.within_block.mp h).2
    rw [Node.blocks, List.mem_cons] at hb
    rcases hb with rfl | hb
    · exact hbody
    · exact every_of_blocks hbody b hb
  | .text _, _, _, hb | .raw _ _ _, _, _, hb | .comment _, _, _, hb | .super, _, _, hb
  | .extend _ _, _, _, hb | .importing _ _ _, _, _, hb | .output _ _, _, _, hb
  | .set _ _ _ _, _, _, hb | .inclusion _ _ _, _, _, hb | .loop _ _ _ _ _ _ _, _, _, hb
  | .cond _ _ _, _, _, hb | .filtered _ _ _ _, _, _, hb | .define _ _ _ _ _, _, _, hb
  | .stop _, _, _, hb | .next _, _, _, hb => by simp [Node.blocks] at hb

end

theorem every_of_macros {ns : List Node} (h : Every P ns) :
    ∀ m ∈ macrosOf ns, Every P m.2.body := by
  intro m hm
  obtain ⟨n, hn, hnm⟩ := List.mem_filterMap.mp hm
  have within := every_iff.mp h n hn
  cases n with
  | define o name params body c =>
    cases hnm
    exact (Node.within_define.mp within).2
  | _ => cases hnm

end

structure Template.Every (P : Node → Prop) (t : Template) : Prop where
  nodes : ViewWeave.Every P t.nodes
  blocks : ∀ b ∈ t.blocks, ViewWeave.Every P b.2
  macros : ∀ m ∈ t.macros, ViewWeave.Every P m.2.body

end ViewWeave
