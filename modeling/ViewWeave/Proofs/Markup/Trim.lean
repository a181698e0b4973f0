import ViewWeave.Proofs.Markup.Yield
import ViewWeave.Proofs.Text.Parts

/-!
# Trimming makes up no text

Trimmed nodes lack every character that the nodes lack. The state between two nodes holds nodes that
lack it, and each step keeps that.
-/

namespace ViewWeave

namespace Markup

variable {d : Char}

theorem lacking_text {s t : List Char} (hs : d ∉ s) (ht : t ⊆ s) :
    Lacking d (.text (String.ofList t)) :=
  lacking_leaf d (by simpa [Node.Lacks] using fun h => hs (ht h)) rfl

theorem lacking_trimLast {ns : List Node} (h : ∀ n ∈ ns, Lacking d n) :
    ∀ n ∈ trimLast ns, Lacking d n := by
  unfold trimLast
  split
  · rename_i s rest
    simp only [List.mem_cons, forall_eq_or_imp] at h
    dsimp only
    split
    · exact h.2
    · simp only [List.mem_cons, forall_eq_or_imp]
      exact ⟨lacking_text h.1.self (Text.trimEnd_subset _), h.2⟩
  · exact h

theorem every_trimBodyEnd {ns : List Node} (h : Every (Node.Lacks d) ns) :
    Every (Node.Lacks d) (trimBodyEnd ns) := by
  rw [every_iff] at h ⊢
  intro n hn
  refine lacking_trimLast (fun m hm => h m (List.mem_reverse.mp hm)) n (List.mem_reverse.mp hn)

theorem every_trimEnds {bs : List Branch} (last : Bool)
    (h : ∀ b ∈ bs, Every (Node.Lacks d) b.body) :
    ∀ b ∈ trimEnds last bs, Every (Node.Lacks d) b.body := by
  induction bs with
  | nil => simp [trimEnds]
  | cons b bs ih =>
    simp only [List.mem_cons, forall_eq_or_imp] at h
    have cut (c : Bool) : Every (Node.Lacks d) (if c then b.mapBody trimBodyEnd else b).body := by
      cases c with
      | false => exact h.1
      | true =>
        cases b
        exact every_trimBodyEnd h.1
    simp only [trimEnds, List.mem_cons, forall_eq_or_imp]
    exact ⟨cut _, ih h.2⟩

namespace TrimState

def Lacks (d : Char) (st : TrimState) : Prop := ∀ n ∈ st.done, Lacking d n

theorem Lacks.opened (left : Bool) : (TrimState.opened left).Lacks d := by
  simp [Lacks, TrimState.opened]

theorem Lacks.tag {st : TrimState} (h : st.Lacks d) (left right : Bool) {n : Node}
    (hn : Lacking d n) :
    (st.tag left right n).Lacks d := by
  simp only [Lacks, TrimState.tag, List.mem_cons, forall_eq_or_imp]
  refine ⟨hn, ?_⟩
  split
  · exact lacking_trimLast h
  · exact h

theorem Lacks.text {st : TrimState} (h : st.Lacks d) {s : String} (hs : d ∉ s.toList) :
    (st.text s).Lacks d := by
  unfold TrimState.text
  split
  · dsimp only
    split
    · exact h
    · simp only [Lacks, List.mem_cons, forall_eq_or_imp]
      exact ⟨lacking_text hs (Text.trimStart_subset _), h⟩
  · simp only [Lacks, List.mem_cons, forall_eq_or_imp]
    exact ⟨lacking_leaf d hs rfl, h⟩

theorem Lacks.close {st : TrimState} (h : st.Lacks d) (right : Bool) :
    Every (Node.Lacks d) (st.close right) := by
  rw [every_iff]
  intro n hn
  have hm := List.mem_reverse.mp hn
  split at hm
  · exact lacking_trimLast h n hm
  · exact h n hm

end TrimState

theorem not_mem_trimRaw {o c : Marks} {s : String} (h : d ∉ s.toList) :
    d ∉ (trimRaw o c s).toList := by
  have start : (if o.right then Text.trimStart s.toList else s.toList) ⊆ s.toList := by
    split
    · exact Text.trimStart_subset _
    · exact List.Subset.refl _
  simp only [trimRaw, String.toList_ofList]
  intro hm
  refine h (start ?_)
  split at hm
  · exact Text.trimEnd_subset _ hm
  · exact hm

mutual

theorem lacks_trimNodes : ∀ {ns : List Node} {st : TrimState}, st.Lacks d →
    Every (Node.Lacks d) ns →
    (trimNodes st ns).Lacks d
  | [], _, hst, _ => hst
  | n :: ns, st, hst, h => by
    obtain ⟨hn, hns⟩ := every_cons.mp h
    rw [trimNodes]
    exact lacks_trimNodes (lacks_trimNode hst hn) hns

theorem lacks_trimNode : ∀ {n : Node} {st : TrimState}, st.Lacks d → Lacking d n →
    (trimNode st n).Lacks d
  | .text s, _, hst, h => hst.text h.self
  | .raw _ _ _, _, hst, h => hst.tag _ _ (lacking_leaf d (not_mem_trimRaw h.self) rfl)
  | .comment _, _, hst, h | .extend _ _, _, hst, h | .importing _ _ _, _, hst, h
  | .output _ _, _, hst, h | .set _ _ _ _, _, hst, h | .inclusion _ _ _, _, hst, h
  | .stop _, _, hst, h | .next _, _, hst, h => hst.tag _ _ h
  | .super, _, hst, h => by
    simp only [TrimState.Lacks, trimNode, List.mem_cons, forall_eq_or_imp]
    exact ⟨h, hst⟩
  | .block o _ body c, _, hst, h => by
    have inner := (lacks_trimNodes (.opened o.right) (Node.within_block.mp h).2).close c.left
    exact hst.tag _ _ (Node.within_block.mpr ⟨trivial, inner⟩)
  | .loop o _ _ _ body empty c, _, hst, h => by
    obtain ⟨-, hb, he⟩ := Node.within_loop.mp h
    have inner := (lacks_trimNodes (.opened o.right) hb).close c.left
    exact hst.tag _ _ (Node.within_loop.mpr ⟨trivial, inner, he⟩)
  | .cond bs none c, _, hst, h => by
    obtain ⟨-, hbs, -⟩ := Node.within_cond.mp h
    have branches := every_trimEnds c.left (every_trimBranches hbs)
    exact hst.tag _ _ (Node.within_cond.mpr ⟨trivial, branches, every_nil⟩)
  | .cond bs (some (m, body)) c, _, hst, h => by
    obtain ⟨-, hbs, ho⟩ := Node.within_cond.mp h
    have branches := every_trimEnds m.left (every_trimBranches hbs)
    have inner := (lacks_trimNodes (.opened m.right) ho).close c.left
    exact hst.tag _ _ (Node.within_cond.mpr ⟨trivial, branches, inner⟩)
  | .filtered o _ body c, _, hst, h => by
    have inner := (lacks_trimNodes (.opened o.right) (Node.within_filtered.mp h).2).close c.left
    exact hst.tag _ _ (Node.within_filtered.mpr ⟨trivial, inner⟩)
  | .define o _ _ body c, _, hst, h => by
    have inner := (lacks_trimNodes (.opened o.right) (Node.within_define.mp h).2).close c.left
    exact hst.tag _ _ (Node.within_define.mpr ⟨trivial, inner⟩)

theorem every_trimBranches : ∀ {bs : List Branch}, (∀ b ∈ bs, Every (Node.Lacks d) b.body) →
    ∀ b ∈ trimBranches bs, Every (Node.Lacks d) b.body
  | [], _ => by simp [trimBranches]
  | .mk m _ body :: bs, h => by
    simp only [List.mem_cons, forall_eq_or_imp] at h
    simp only [trimBranches, List.mem_cons, forall_eq_or_imp]
    exact ⟨(lacks_trimNodes (.opened m.right) h.1).close false, every_trimBranches h.2⟩

end

theorem lacks_trimmed {ns : List Node} (h : Every (Node.Lacks d) ns) :
    Every (Node.Lacks d) (trimmed ns) :=
  (lacks_trimNodes (.opened false) h).close false

theorem exists_readTemplate {source : String} {ns : List Node} (h : readNodes source = .ok ns) :
    ∃ read, readTemplate source.toList = some (read, none) ∧ ns = trimmed read := by
  unfold readNodes at h
  cases hr : readTemplate source.toList with
  | none =>
    rw [hr] at h
    cases h
  | some r =>
    obtain ⟨read, overflow⟩ := r
    rw [hr] at h
    cases overflow with
    | some o => cases h
    | none =>
      refine ⟨read, rfl, ?_⟩
      dsimp only [Option.elim, bind, Except.bind] at h
      cases hb : firstRepeated? [] ((blocksOf (trimmed read)).map (·.1)) with
      | some b =>
        rw [hb] at h
        cases h
      | none =>
        cases hm : firstRepeated? [] ((macrosOf (trimmed read)).map (·.1)) with
        | some m =>
          rw [hb, hm] at h
          cases h
        | none =>
          rw [hb, hm] at h
          exact (Except.ok.inj h).symm

/-- The nodes of a template lack every character that its text lacks. -/
theorem lacks_of_readNodes {source : String} {ns : List Node} (h : readNodes source = .ok ns)
    (hs : d ∉ source.toList) : Every (Node.Lacks d) ns := by
  obtain ⟨read, hr, rfl⟩ := exists_readTemplate h
  exact lacks_trimmed (lacks_of_readTemplate hr hs)

end Markup

end ViewWeave
