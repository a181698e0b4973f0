import ViewWeave.Proofs.Markup.Parts
import ViewWeave.Proofs.Markup.Reading

/-!
# Characters that a template does not have

What is read from a text without a character does not have it either: no rule makes up any text.
-/

namespace ViewWeave

def Node.Lacks (d : Char) : Node → Prop
  | .text s | .raw _ s _ => d ∉ s.toList
  | _ => True

namespace Markup

namespace Rule

variable {d : Char} {α β : Type} {P : α → Prop} {Q : β → Prop}

/-- From a text without `d`, the rule reads what satisfies `P`, and leaves a text without `d`. -/
def Yields (d : Char) (P : α → Prop) (p : Rule α) : Prop :=
  ∀ c a e, d ∉ c.rest → p c = some (a, e) → d ∉ e.rest ∧ P a

class Spares (d : Char) (p : Rule α) : Prop where
  yields : p.Yields d fun _ => True

/-! ## Results that satisfy something -/

theorem yields_pure {a : α} (h : P a) : (pure a : Rule α).Yields d P := by
  intro c b e hc hb
  cases hb
  exact ⟨hc, h⟩

theorem Yields.bind {p : Rule α} {f : α → Rule β} (hp : p.Yields d P)
    (hf : ∀ a, P a → (f a).Yields d Q) : (p >>= f).Yields d Q := by
  intro c b e hc hb
  rw [bind_apply] at hb
  cases ha : p c with
  | none => simp [ha] at hb
  | some r =>
    obtain ⟨a, c'⟩ := r
    rw [ha] at hb
    obtain ⟨hc', h⟩ := hp c a c' hc ha
    exact hf a h c' b e hc' hb

theorem yields_after {p : Rule α} {f : α → Rule β} [hp : Spares d p] (hf : ∀ a, (f a).Yields d Q) :
    (p >>= f).Yields d Q := hp.yields.bind fun a _ => hf a

theorem Yields.orElse {p q : Rule α} (hp : p.Yields d P) (hq : q.Yields d P) :
    (p <|> q).Yields d P := by
  intro c a e hc ha
  rw [orElse_apply] at ha
  cases hpc : p c with
  | none =>
    rw [hpc] at ha
    exact hq c a e hc ha
  | some r =>
    rw [hpc] at ha
    cases ha
    exact hp c a e hc hpc

theorem yields_refuse : (refuse : Rule α).Yields d P := fun _ _ _ _ h => by cases h

theorem Yields.spares {p : Rule α} (h : p.Yields d P) : Spares d p :=
  ⟨fun c a e hc ha => ⟨(h c a e hc ha).1, trivial⟩⟩

theorem Yields.opt {p : Rule α} (h : p.Yields d P) : (opt p).Yields d fun a => ∀ x ∈ a, P x := by
  have some : (do return some (← p) : Rule (Option α)).Yields d fun a => ∀ x ∈ a, P x :=
    h.bind fun a ha => yields_pure (by simpa using ha)
  exact some.orElse (yields_pure (by simp))

theorem Yields.upTo {p : Rule α} (h : p.Yields d P) :
    ∀ n, (upTo p n).Yields d fun as => ∀ a ∈ as, P a
  | 0 => yields_pure (by simp)
  | n + 1 => by
    intro c as e hc has
    unfold Rule.upTo at has
    cases ha : p c with
    | none =>
      rw [ha] at has
      cases has
      exact ⟨hc, by simp⟩
    | some r =>
      obtain ⟨a, c'⟩ := r
      obtain ⟨hc', pa⟩ := h c a c' hc ha
      rw [ha] at has
      dsimp only at has
      cases hr : Rule.upTo p n c' with
      | none => simp [hr] at has
      | some r =>
        obtain ⟨bs, c''⟩ := r
        rw [hr] at has
        cases has
        obtain ⟨he, pbs⟩ := h.upTo n c' bs _ hc' hr
        exact ⟨he, by simpa using ⟨pa, pbs⟩⟩

theorem Yields.many {p : Rule α} (h : p.Yields d P) : (many p).Yields d fun as => ∀ a ∈ as, P a :=
  fun c => h.upTo c.rest.length c

theorem yields_matched (p : Rule Unit) [h : Spares d p] :
    (matched p).Yields d fun s => d ∉ s.toList := by
  intro c s e hc hs
  unfold matched at hs
  cases hp : p c with
  | none => simp [hp] at hs
  | some r =>
    obtain ⟨u, c'⟩ := r
    rw [hp] at hs
    cases hs
    exact ⟨(h.yields c u e hc hp).1, by simpa using fun hm => hc (List.mem_of_mem_take hm)⟩

/-! ## Any results -/

instance (a : α) : Spares d (pure a : Rule α) := ⟨yields_pure trivial⟩

instance : Spares d (refuse : Rule α) := ⟨yields_refuse⟩

instance (p : Rule α) (f : α → Rule β) [hp : Spares d p] [hf : ∀ a, Spares d (f a)] :
    Spares d (p >>= f) :=
  ⟨hp.yields.bind fun a _ => (hf a).yields⟩

instance (p q : Rule α) [hp : Spares d p] [hq : Spares d q] : Spares d (p <|> q) :=
  ⟨hp.yields.orElse hq.yields⟩

instance (p : Rule α) [h : Spares d p] : Spares d (opt p) := h.yields.opt.spares

instance (p : Rule α) [h : Spares d p] : Spares d (many p) := h.yields.many.spares

instance (p : Rule Unit) [Spares d p] : Spares d (matched p) := (yields_matched p).spares

/-- A rule that leaves only characters that were there spares all others. -/
theorem spares_of_subset {p : Rule α} (h : ∀ c a e, p c = some (a, e) → e.rest ⊆ c.rest) :
    Spares d p :=
  ⟨fun c a e hc ha => ⟨fun hm => hc (h c a e ha hm), trivial⟩⟩

instance (w : String) : Spares d (lit w) := by
  refine spares_of_subset fun c a e h => ?_
  obtain ⟨rest, hr, he⟩ := Option.map_eq_some_iff.mp h
  cases he
  rw [Text.dropStart?_eq_some_iff.mp hr]
  exact List.subset_append_right _ _

instance (q : Char → Bool) : Spares d (one q) := by
  refine spares_of_subset fun c a e h => ?_
  obtain ⟨_ | ⟨x, xs⟩, o⟩ := c
  · cases h
  · by_cases hx : q x
    · simp only [one, hx, if_true, Option.some.injEq, Prod.mk.injEq] at h
      rw [← h.2]
      exact List.subset_cons_self x xs
    · simp [one, hx] at h

instance (q : Char → Bool) : Spares d (run q) :=
  spares_of_subset fun _ _ _ h => by cases h; exact (List.dropWhile_suffix _).subset

instance (q : Char → Bool) : Spares d (run1 q) := by unfold run1; infer_instance

instance : Spares d skip := by unfold skip; infer_instance

instance : Spares d skip1 := by unfold skip1; infer_instance

instance (p : Rule α) [Spares d p] : Spares d (manySpaced p) :=
  inferInstanceAs (Spares d ((do
    let a ← p
    let as ← many (do skip; p)
    return a :: as) <|> pure [] : Rule (List α)))

end Rule

open Rule

variable {d : Char}

/-! ## Literals and names -/

instance : Spares d wholeText := by unfold wholeText wholeDigits; infer_instance

instance : Spares d pointText := by unfold pointText wholeDigits; infer_instance

instance (s : String) (i : Int) : Spares d (noteRange s i) := by
  refine spares_of_subset fun c a e h => ?_
  cases h
  split <;> exact List.Subset.refl _

instance : Spares d whole := by unfold whole; infer_instance

instance : Spares d double := by unfold double; infer_instance

instance : Spares d quotedText := by unfold quotedText between; infer_instance

instance : Spares d truth := by unfold truth; infer_instance

instance : Spares d nameText := by unfold nameText; infer_instance

instance : Spares d name := by unfold name; infer_instance

instance (n : Nat) : Spares d (pathText n) := by
  induction n with
  | zero => unfold pathText; infer_instance
  | succ n ih => unfold pathText dotField; infer_instance

instance : Spares d path := by
  let text : Rule Unit := fun c => pathText (bracketsAhead c + 1) c
  have : Spares d text :=
    ⟨fun c => (inferInstance : Spares d (pathText (bracketsAhead c + 1))).yields c⟩
  exact inferInstanceAs (Spares d (matched text))

/-! ## Expressions -/

class Inner.Spares (d : Char) (r : Inner) : Prop where
  logic : Rule.Spares d r.logic
  basic : Rule.Spares d r.basic
  array : Rule.Spares d r.array

attribute [instance] Inner.Spares.logic Inner.Spares.basic Inner.Spares.array

instance : Spares d arithOp := by unfold arithOp; infer_instance

instance : Spares d compareOp := by unfold compareOp; infer_instance

instance (s : String) : Spares d (wordOp s) := by unfold wordOp; infer_instance

instance : Spares d logicOp := by unfold logicOp; infer_instance

section
variable {α ο : Type} (op : Rule ο) (operand : Rule α) [Spares d op] [Spares d operand]

instance : Spares d (operation op operand) := by unfold operation; infer_instance

instance (mk : ο → α → α → α) (tight : ο → Bool) : Spares d (chain mk tight op operand) := by
  unfold chain
  infer_instance

end

set_option synthInstance.maxSize 1500

namespace Inner

variable (r : Inner) [r.Spares d]

instance : Rule.Spares d r.value := by unfold value; infer_instance

instance : Rule.Spares d r.arg := by unfold arg; infer_instance

instance : Rule.Spares d r.args := by unfold args; infer_instance

instance : Rule.Spares d r.call := by unfold call; infer_instance

instance : Rule.Spares d r.filter := by unfold filter; infer_instance

instance : Rule.Spares d r.macroCall := by unfold macroCall; infer_instance

instance : Rule.Spares d r.testArgs := by unfold testArgs; infer_instance

instance : Rule.Spares d r.testCall := by unfold testCall; infer_instance

instance : Rule.Spares d r.testNot := by unfold testNot; infer_instance

instance : Rule.Spares d r.test := by unfold test; infer_instance

instance : Rule.Spares d r.operand := by unfold operand; infer_instance

instance : Rule.Spares d r.factor := by unfold factor; infer_instance

instance : Rule.Spares d r.sum := by unfold sum; infer_instance

instance : Rule.Spares d r.filters := by unfold filters; infer_instance

instance : Rule.Spares d r.filteredSum := by unfold filteredSum; infer_instance

instance : Rule.Spares d r.part := by unfold part; infer_instance

instance : Rule.Spares d r.concat := by unfold concat; infer_instance

instance : Rule.Spares d r.filteredText := by unfold filteredText; infer_instance

instance : Rule.Spares d r.filteredSums := by unfold filteredSums; infer_instance

instance : Rule.Spares d r.side := by unfold side; infer_instance

instance : Rule.Spares d r.comparison := by unfold comparison; infer_instance

instance : Rule.Spares d r.container := by unfold container; infer_instance

instance : Rule.Spares d r.within := by unfold within; infer_instance

instance : Rule.Spares d r.logicOperand := by unfold logicOperand; infer_instance

instance : Rule.Spares d r.wholeLogic := by unfold wholeLogic; infer_instance

instance : Rule.Spares d r.wholeArray := by unfold wholeArray; infer_instance

instance (n : Nat) : (level n).Spares d := by
  induction n with
  | zero => exact ⟨inferInstanceAs (Rule.Spares d refuse), inferInstanceAs (Rule.Spares d refuse),
      inferInstanceAs (Rule.Spares d refuse)⟩
  | succ n ih => exact ⟨inferInstanceAs (Rule.Spares d (level n).wholeLogic),
      inferInstanceAs (Rule.Spares d (level n).sum),
      inferInstanceAs (Rule.Spares d (level n).wholeArray)⟩

end Inner

/-! ## Tags -/

instance : Spares d tagStart := by unfold tagStart; infer_instance

instance : Spares d tagEnd := by unfold tagEnd; infer_instance

instance : Spares d outputStart := by unfold outputStart; infer_instance

instance : Spares d outputEnd := by unfold outputEnd; infer_instance

instance : Spares d commentStart := by unfold commentStart; infer_instance

instance : Spares d commentEnd := by unfold commentEnd; infer_instance

instance (word : String) : Spares d (wordTag word) := by unfold wordTag; infer_instance

instance (word : String) : Spares d (endTag word) := by unfold endTag; infer_instance

instance {α : Type} (word : String) (p : Rule α) [Spares d p] : Spares d (leadTag word p) := by
  unfold leadTag
  infer_instance

theorem dropUntil_subset (stops : List Char → Bool) : ∀ s, dropUntil stops s ⊆ s
  | [] => List.Subset.refl _
  | c :: cs => by
    unfold dropUntil
    split
    · exact List.Subset.refl _
    · exact List.Subset.trans (dropUntil_subset stops cs) (List.subset_cons_self c cs)

instance (stops : List Char → Bool) : Spares d (upToPlace stops) :=
  spares_of_subset fun _ _ _ h => by cases h; exact dropUntil_subset stops _

def avoid (stops : List Char → Bool) : Rule Unit :=
  fun c => if stops c.rest then none else some ((), c)

instance (stops : List Char → Bool) : Spares d (avoid stops) := by
  refine spares_of_subset fun c a e h => ?_
  unfold avoid at h
  split at h
  · cases h
  · cases h
    exact List.Subset.refl _

instance : Spares d atEnd := by
  refine spares_of_subset fun c a e h => ?_
  unfold atEnd at h
  split at h
  · cases h
    exact List.Subset.refl _
  · cases h

instance : Spares d templateNames := by unfold templateNames; infer_instance

instance (r : Inner) [r.Spares d] : Spares d (loopHead r) := by unfold loopHead; infer_instance

instance : Spares d fallback := by unfold fallback; infer_instance

instance : Spares d param := by unfold param; infer_instance

instance : Spares d defineHead := by unfold defineHead; infer_instance

/-! ## Nodes -/

section
variable {P : Node → Prop}

theorem yields_body {p : Rule Node} (h : p.Yields d (Node.Within P)) :
    (many p).Yields d (Every P) := by
  intro c ns e hc hns
  obtain ⟨he, all⟩ := h.many c ns e hc hns
  exact ⟨he, every_iff.mpr all⟩

theorem yields_only {α : Type} {P : α → Prop} (b : Bool) {p : Rule α} (h : p.Yields d P) :
    (only b p).Yields d P := by
  cases b with
  | false => exact yields_refuse
  | true => exact h

end

variable (d)

abbrev Lacking : Node → Prop := Node.Within (Node.Lacks d)

theorem lacking_leaf {n : Node} (h : n.Lacks d) (leaf : n.parts = [n]) : Lacking d n := by
  intro m hm
  rw [leaf, List.mem_singleton] at hm
  rwa [hm]

theorem yields_textNode : textNode.Yields d (Lacking d) := by
  show (do
    let s ← matched (do avoid startsTag; one (fun _ => true); upToPlace startsTag)
    return Node.text s : Rule Node).Yields d (Lacking d)
  exact (yields_matched _).bind fun s hs => yields_pure (lacking_leaf d hs rfl)

theorem yields_commentNode : commentNode.Yields d (Lacking d) := by
  show (do
    let left ← commentStart
    avoid (reads commentEnd)
    one (fun _ => true)
    upToPlace (reads commentEnd)
    return Node.comment ⟨left, ← commentEnd⟩ : Rule Node).Yields d (Lacking d)
  refine yields_after fun left => yields_after fun _ => yields_after fun _ =>
    yields_after fun _ => ?_
  exact yields_after fun right => yields_pure (lacking_leaf d trivial rfl)

theorem yields_rawNode : rawNode.Yields d (Lacking d) := by
  refine yields_after fun opening => (yields_matched _).bind fun s hs => ?_
  exact yields_after fun closing => yields_pure (lacking_leaf d hs rfl)

theorem yields_inclusionNode : inclusionNode.Yields d (Lacking d) :=
  yields_after fun ⟨_, _, _⟩ => yields_pure (lacking_leaf d trivial rfl)

theorem yields_superNode : superNode.Yields d (Lacking d) := by
  refine yields_after fun _ => yields_after fun _ => yields_after fun _ => yields_after fun _ => ?_
  exact yields_after fun _ => yields_pure (lacking_leaf d trivial rfl)

theorem yields_extendNode : extendNode.Yields d (Lacking d) :=
  yields_after fun _ => yields_after fun ⟨_, _⟩ => yields_after fun _ =>
    yields_pure (lacking_leaf d trivial rfl)

theorem yields_importNode : importNode.Yields d (Lacking d) :=
  yields_after fun _ => yields_after fun ⟨_, _, _⟩ => yields_after fun _ =>
    yields_pure (lacking_leaf d trivial rfl)

section
variable (r : Inner) [r.Spares d]

theorem yields_outputNode : (outputNode r).Yields d (Lacking d) := by
  refine yields_after fun _ => yields_after fun _ => yields_after fun _ => yields_after fun _ => ?_
  exact yields_after fun _ => yields_pure (lacking_leaf d trivial rfl)

theorem yields_setNode (word : String) (outer : Bool) :
    (setNode r word outer).Yields d (Lacking d) :=
  yields_after fun ⟨_, _, _⟩ => yields_pure (lacking_leaf d trivial rfl)

/-! ## Nodes with bodies -/

variable {body : Rule (List Node)} (hb : body.Yields d (Every (Node.Lacks d)))
include hb

theorem yields_blockNode : (blockNode body).Yields d (Lacking d) :=
  yields_after fun ⟨_, _⟩ => hb.bind fun _ hns => yields_after fun _ =>
    yields_pure (Node.within_block.mpr ⟨trivial, hns⟩)

theorem yields_filteredNode : (filteredNode r body).Yields d (Lacking d) :=
  yields_after fun ⟨_, _⟩ => hb.bind fun _ hns => yields_after fun _ =>
    yields_pure (Node.within_filtered.mpr ⟨trivial, hns⟩)

theorem yields_defineNode : (defineNode body).Yields d (Lacking d) :=
  yields_after fun ⟨_, _, _⟩ => hb.bind fun _ hns => yields_after fun _ =>
    yields_pure (Node.within_define.mpr ⟨trivial, hns⟩)

theorem yields_loopNode : (loopNode r body).Yields d (Lacking d) := by
  refine yields_after fun ⟨_, _, _, _⟩ => hb.bind fun _ hns => ?_
  have other : (do let _ ← wordTag "else"; body : Rule (List Node)).Yields d
      (Every (Node.Lacks d)) :=
    yields_after fun _ => hb
  refine other.many.bind fun empties he => yields_after fun _ => yields_pure ?_
  refine Node.within_loop.mpr ⟨trivial, hns, ?_⟩
  cases hl : empties.getLast? with
  | none => exact every_nil
  | some ns => exact he ns (List.mem_of_getLast? hl)

theorem yields_branch (word : String) :
    (branch r word body).Yields d fun b => Every (Node.Lacks d) b.body :=
  yields_after fun ⟨_, _⟩ => hb.bind fun _ hns => yields_pure hns

theorem yields_condNode : (condNode r body).Yields d (Lacking d) := by
  refine (yields_branch d r hb "if").bind fun b first => ?_
  refine (yields_branch d r hb "elif").many.bind fun bs rest => ?_
  have other : (do let m ← wordTag "else"; return (m, ← body) : Rule (Marks × List Node)).Yields d
      fun o => Every (Node.Lacks d) o.2 :=
    yields_after fun _ => hb.bind fun _ hns => yields_pure hns
  refine other.opt.bind fun otherwise ho => yields_after fun _ => yields_pure ?_
  refine Node.within_cond.mpr ⟨trivial, by simpa using ⟨first, rest⟩, ?_⟩
  cases otherwise with
  | none => exact every_nil
  | some o => exact ho o rfl

end

/-! ## Templates -/

section
variable (r : Inner) [r.Spares d]

theorem yields_node {inner : Area → Rule Node} (h : ∀ a, (inner a).Yields d (Lacking d))
    (a : Area) :
    (node r inner a).Yields d (Lacking d) := by
  have body (a : Area) : (many (inner a)).Yields d (Every (Node.Lacks d)) := yields_body (h a)
  have word (w : String) {f : Marks → Node} (hf : ∀ m, Lacking d (f m)) :
      (do return f (← wordTag w) : Rule Node).Yields d (Lacking d) :=
    yields_after fun m => yields_pure (hf m)
  exact (yields_inclusionNode d).orElse <| (yields_only _ (yields_superNode d)).orElse <|
    (yields_outputNode d r).orElse <| (yields_commentNode d).orElse <|
    (yields_setNode d r _ _).orElse <| (yields_setNode d r _ _).orElse <|
    (yields_only _ (yields_blockNode d (body _))).orElse <| (yields_condNode d r (body _)).orElse <|
    (yields_loopNode d r (body _)).orElse <|
    (yields_only _ (word (f := Node.stop) "break" fun _ => lacking_leaf d trivial rfl)).orElse <|
    (yields_only _ (word (f := Node.next) "continue" fun _ => lacking_leaf d trivial rfl)).orElse <|
    (yields_filteredNode d r (body _)).orElse <| (yields_rawNode d).orElse <| yields_textNode d

theorem yields_nodeAt : ∀ (n : Nat) (a : Area), (nodeAt r n a).Yields d (Lacking d)
  | 0, _ => yields_refuse
  | n + 1, a => yields_node d r (yields_nodeAt n) a

theorem yields_head : head.Yields d fun ns => ∀ n ∈ ns, Lacking d n := by
  refine Yields.orElse ?_ ?_
  · refine (yields_extendNode d).bind fun x hx => (yields_importNode d).many.bind fun xs hxs => ?_
    exact yields_pure (by simpa using ⟨hx, hxs⟩)
  · refine (yields_importNode d).bind fun x hx => (yields_importNode d).many.bind fun xs hxs => ?_
    refine (yields_extendNode d).opt.bind fun y hy => yields_pure ?_
    simpa [or_imp, forall_and] using ⟨hx, hxs, hy⟩

theorem yields_template (n : Nat) : (template r n).Yields d (Every (Node.Lacks d)) := by
  refine (yields_commentNode d).many.bind fun _ _ => (yields_head d).opt.bind fun hs hhs => ?_
  have item := (yields_nodeAt d r n .top).orElse
    (yields_defineNode d (yields_body (yields_nodeAt d r n .definition)))
  refine (yields_body item).bind fun ns hns => yields_after fun _ => yields_pure ?_
  refine every_append.mpr ⟨?_, hns⟩
  cases hs with
  | none => exact every_nil
  | some ns => exact every_iff.mpr (hhs ns rfl)

end

variable {d}

/-- **No text is made up.** The nodes that are read from a text lack every character that it
lacks. -/
theorem lacks_of_readTemplate {s : List Char} {ns : List Node} {o : Option String}
    (h : readTemplate s = some (ns, o)) (hs : d ∉ s) : Every (Node.Lacks d) ns := by
  obtain ⟨⟨ns, c⟩, hr, heq⟩ := Option.map_eq_some_iff.mp h
  cases heq
  exact (yields_template d _ _ _ _ _ hs hr).2

end Markup

end ViewWeave
