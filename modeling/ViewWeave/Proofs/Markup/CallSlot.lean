import ViewWeave.Proofs.Markup.CallTag
import ViewWeave.Proofs.Markup.Occurrence

/-!
# Texts around one call

Plain text with one tag in it, which calls a function without arguments, at the top or in a block.
Whether such a text is a template depends on the function's name alone.
-/

namespace ViewWeave

/-- Plain text with a slot for one tag, at the top or in a block. -/
inductive Slot
  | top (before after : String)
  | block (before name front back after : String)

namespace Slot

open Markup Interpolation

def source (f : String) : Slot → String
  | top before after => before ++ "\x7b\x7b " ++ f ++ "() \x7d\x7d" ++ after
  | block before name front back after =>
    before ++ "\x7b% block " ++ name ++ " %\x7d" ++
      front ++ "\x7b\x7b " ++ f ++ "() \x7d\x7d" ++ back ++
      "\x7b% endblock %\x7d" ++ after

/-- No text has an opening brace in it, and the block has a name. -/
def Plain : Slot → Prop
  | top before after => '\x7b' ∉ before.toList ∧ '\x7b' ∉ after.toList
  | block before name front back after => '\x7b' ∉ before.toList ∧ Identifier name.toList ∧
    '\x7b' ∉ front.toList ∧ '\x7b' ∉ back.toList ∧ '\x7b' ∉ after.toList

def InBlock : Slot → Prop
  | top _ _ => False
  | block _ _ _ _ _ => True

instance : ∀ p : Slot, Decidable p.Plain
  | top _ _ => inferInstanceAs (Decidable (_ ∧ _))
  | block _ _ _ _ _ => inferInstanceAs (Decidable (_ ∧ _ ∧ _ ∧ _ ∧ _))

instance : ∀ p : Slot, Decidable p.InBlock
  | top _ _ => inferInstanceAs (Decidable False)
  | block _ _ _ _ _ => inferInstanceAs (Decidable True)

def area : Slot → Area
  | top _ _ => .top
  | block _ _ _ _ _ => .block

def nodes (n : Node) : Slot → List Node
  | top before after => textNodes before ++ n :: textNodes after
  | block before name front back after =>
    textNodes before ++
      .block ⟨false, false⟩ name (textNodes front ++ n :: textNodes back) ⟨false, false⟩ ::
      textNodes after

def blocks (n : Node) : Slot → List (String × List Node)
  | top _ _ => []
  | block _ name front back _ => [(name, textNodes front ++ n :: textNodes back)]

def lead : Slot → String
  | top before _ => before
  | block before _ front _ _ => before ++ front

def filled (s : String) (p : Slot) : String :=
  p.lead ++ s ++ match p with
    | top _ after => after
    | block _ _ _ back after => back ++ after

end Slot

open Interpolation Markup

namespace Markup

open Rule

/-! ## Tags with a sign -/

def signed (s : List Char) : List Char := '\x7b' :: '%' :: ' ' :: s

section
variable {c : Char} {s : List Char} (o : Option String)

theorem skip_signed (hc : isSpace c = false) :
    skip ⟨' ' :: c :: s, o⟩ = some ((), ⟨c :: s, o⟩) := by
  have blank : isSpace ' ' = true := rfl
  simp [skip, run, blank, hc]

theorem tagStart_signed : tagStart ⟨signed s, o⟩ = some (false, ⟨' ' :: s, o⟩) := rfl

theorem leadTag_signed {α : Type} {w : String} (hw : w.toList.head?.any (· != c))
    (hc : isSpace c = false) (p : Rule α) : leadTag w p ⟨signed (c :: s), o⟩ = none := by
  simp [leadTag, tagStart_signed, skip_signed o hc, lit_of_head hw]

theorem bodily_signed (hs : isSpace c = false) (hc : c ≠ 'e' ∧ c ≠ 'i') :
    Bodily (signed (c :: s)) where
  tight := rfl
  comment _ := rfl
  extend p o := leadTag_signed o (by simpa using Ne.symm hc.1) hs p
  importing p o := leadTag_signed o (by simpa using Ne.symm hc.2) hs p

/-- Where a tag stands whose word is that of a block or of its end, only a block is read. -/
theorem node_signed (hc : c = 'b' ∨ c = 'e') (r : Inner) (inner : Area → Rule Node) {a : Area}
    (ha : a = .top ∨ a = .block) : node r inner a ⟨signed (c :: s), o⟩ =
      blockNode (many (inner .block)) ⟨signed (c :: s), o⟩ := by
  have solid : isSpace c = false := by
    rcases hc with rfl | rfl <;> rfl
  have others : ∀ w ∈ ["include", "set", "set_global", "if", "for", "filter", "raw"],
      w.toList.head?.any (· != c) := by
    rcases hc with rfl | rfl <;> decide
  have lead {α : Type} {w : String}
      (hw : w ∈ ["include", "set", "set_global", "if", "for", "filter", "raw"]) (p : Rule α) :
      leadTag w p ⟨signed (c :: s), o⟩ = none :=
    leadTag_signed o (others w hw) solid p
  have raw : wordTag "raw" ⟨signed (c :: s), o⟩ = none := by
    simp [wordTag, tagStart_signed, skip_signed o solid, lit_of_head (others "raw" (by decide))]
  have opened : outputStart ⟨signed (c :: s), o⟩ = none := rfl
  have noSuper : superNode ⟨signed (c :: s), o⟩ = none := by simp [superNode, opened]
  have comment : commentNode ⟨signed (c :: s), o⟩ = none := rfl
  have text : textNode ⟨signed (c :: s), o⟩ = none := rfl
  have block (p : Rule Node) : only (a == .top || a == .block || a == .filtered) p = p := by
    rcases ha with rfl | rfl <;> rfl
  have loop (p : Rule Node) : only (a == .loop) p = refuse := by
    rcases ha with rfl | rfl <;> rfl
  unfold node
  simp only [orElse_apply, only_of_none noSuper, inclusionNode, outputNode, setNode, condNode,
    branch, loopNode, filteredNode, rawNode, bind_apply, opened, comment, text, raw, block, loop,
    refuse_apply, lead (w := "include") (by decide), lead (w := "set") (by decide),
    lead (w := "set_global") (by decide), lead (w := "if") (by decide),
    lead (w := "for") (by decide), lead (w := "filter") (by decide)]
  cases blockNode (many (inner .block)) ⟨signed (c :: s), o⟩ <;> rfl

end

/-! ## Blocks -/

def blockStart (n rest : List Char) : List Char :=
  signed ('b' :: 'l' :: 'o' :: 'c' :: 'k' :: ' ' :: (n ++ ' ' :: '%' :: '\x7d' :: rest))

def blockEnd (rest : List Char) : List Char :=
  signed ('e' :: 'n' :: 'd' :: 'b' :: 'l' :: 'o' :: 'c' :: 'k' :: ' ' :: '%' :: '\x7d' :: rest)

section
variable (o : Option String) (rest : List Char)

theorem endTag_blockEnd :
    endTag "endblock" ⟨blockEnd rest, o⟩ = some (⟨false, false⟩, ⟨rest, o⟩) := rfl

theorem node_blockEnd (r : Inner) (inner : Area → Rule Node) :
    node r inner .block ⟨blockEnd rest, o⟩ = none := by
  have none : leadTag "block" name ⟨blockEnd rest, o⟩ = none := leadTag_signed o rfl rfl name
  unfold blockEnd at none ⊢
  rw [node_signed o (.inr rfl) r inner (.inr rfl)]
  simp [blockNode, none]

theorem leadTag_blockStart {n : List Char} (h : Identifier n) :
    leadTag "block" name ⟨blockStart n rest, o⟩ =
    some ((⟨false, false⟩, String.ofList n), ⟨rest, o⟩) := by
  have border : Border (' ' :: '%' :: '\x7d' :: rest) := by
    intro c hc
    cases hc
    decide
  have word : lit "block"
      ⟨'b' :: 'l' :: 'o' :: 'c' :: 'k' :: ' ' :: (n ++ ' ' :: '%' :: '\x7d' :: rest), o⟩ =
      some ((), ⟨' ' :: (n ++ ' ' :: '%' :: '\x7d' :: rest), o⟩) := rfl
  have blank : skip1 ⟨' ' :: (n ++ ' ' :: '%' :: '\x7d' :: rest), o⟩ =
      some ((), ⟨n ++ ' ' :: '%' :: '\x7d' :: rest, o⟩) := h.skip _ o
  have tight : skip ⟨' ' :: '%' :: '\x7d' :: rest, o⟩ = some ((), ⟨'%' :: '\x7d' :: rest, o⟩) := rfl
  have closed : tagEnd ⟨'%' :: '\x7d' :: rest, o⟩ = some (false, ⟨rest, o⟩) := rfl
  simp [blockStart, leadTag, tagStart_signed, skip_signed o (c := 'b') rfl, word, blank,
    h.name o border, tight, closed]

theorem node_blockStart {n body after : List Char} (h : Identifier n) {ns : List Node} (r : Inner)
    (inner : Area → Rule Node) (items : (inner .block).Repeats ⟨body, o⟩ ns ⟨blockEnd after, o⟩) :
    node r inner .top ⟨blockStart n body, o⟩ =
      some (.block ⟨false, false⟩ (String.ofList n) ns ⟨false, false⟩, ⟨after, o⟩) := by
  have lead := leadTag_blockStart o body h
  unfold blockStart at lead ⊢
  rw [node_signed o (.inl rfl) r inner (.inl rfl)]
  simp [blockNode, lead, items.many, endTag_blockEnd]

theorem node_blockStart_none {n body after : List Char} (h : Identifier n) {ns : List Node}
    (r : Inner) (inner : Area → Rule Node)
    (items : (inner .block).Repeats ⟨body, o⟩ ns ⟨after, o⟩) (stuck : Unsigned after) :
    node r inner .top ⟨blockStart n body, o⟩ = none := by
  have lead := leadTag_blockStart o body h
  have unended : endTag "endblock" ⟨after, o⟩ = none := by simp [endTag, stuck.tagStart]
  unfold blockStart at lead ⊢
  rw [node_signed o (.inl rfl) r inner (.inl rfl)]
  simp [blockNode, lead, items.many, unended]

end

/-! ## Whole texts -/

theorem halt_callTag (v rest : List Char) : Halt (callTag v rest) := .inr rfl

theorem bodily_callTag (v rest : List Char) : Bodily (callTag v rest) :=
  (unsigned_callTag v rest).bodily rfl

theorem halt_signed (s : List Char) : Halt (signed s) := .inr rfl

theorem bodily_blockStart (n rest : List Char) : Bodily (blockStart n rest) :=
  bodily_signed rfl ⟨by decide, by decide⟩

theorem Slot.toList_source_top (f before after : String) :
    ((Slot.top before after).source f).toList = before.toList ++ callTag f.toList after.toList := by
  simp [Slot.source, callTag, calling, closing]

theorem Slot.toList_source_block (f before name front back after : String) :
    ((Slot.block before name front back after).source f).toList = before.toList ++
      blockStart name.toList
        (front.toList ++ callTag f.toList (back.toList ++ blockEnd after.toList)) := by
  simp [Slot.source, blockStart, blockEnd, signed, callTag, calling, closing]

section
variable {p : Rule Node} (reads : ReadsText p) {v rest : List Char} {o : Option String} {w : String}
  (hw : '\x7b' ∉ w.toList)
include reads hw

theorem repeats_stuck {s : List Char} (halt : Halt s) (stuck : p ⟨s, o⟩ = none) :
    p.Repeats ⟨w.toList ++ s, o⟩ (textNodes w) ⟨s, o⟩ := by
  simpa using repeats_text reads halt (.nil stuck) hw

theorem repeats_last (stop : p ⟨[], o⟩ = none) : p.Repeats ⟨w.toList, o⟩ (textNodes w) ⟨[], o⟩ := by
  simpa using repeats_stuck reads hw (.inl rfl) stop

theorem repeats_tag {n : Node} {ns : List Node} {e : Cursor}
    (tag : p ⟨callTag v rest, o⟩ = some (n, ⟨rest, o⟩)) (others : p.Repeats ⟨rest, o⟩ ns e) :
    p.Repeats ⟨w.toList ++ callTag v rest, o⟩ (textNodes w ++ n :: ns) e := by
  refine repeats_text reads (halt_callTag v rest) (.cons tag ?_ others) hw
  simp [callTag, calling, closing]
  omega

end

theorem exists_bracesIn (w n s : List Char) : ∃ k, bracesIn (w ++ blockStart n s) = k + 1 := by
  refine Nat.exists_eq_succ_of_ne_zero (Nat.pos_iff_ne_zero.mp ?_)
  exact List.countP_pos_iff.mpr ⟨'\x7b', List.mem_append_right _ (List.mem_cons_self ..), rfl⟩

section
variable (body : Rule (List Node)) (r : Inner) (inner : Area → Rule Node) (o : Option String)

theorem item_eq {s : List Char} (noMacro : leadTag "macro" defineHead ⟨s, o⟩ = none) :
    (node r inner .top <|> defineNode body : Rule Node) ⟨s, o⟩ = node r inner .top ⟨s, o⟩ := by
  simp only [orElse_apply, defineNode, bind_apply, noMacro]
  cases node r inner .top ⟨s, o⟩ <;> rfl

theorem item_done : (node r inner .top <|> defineNode body : Rule Node) ⟨[], o⟩ = none := by
  rw [item_eq body r inner o (Stop.done.unsigned.leadTag o _ _), node_done]

end

theorem readTemplate_none {w s rest : List Char} {ns : List Node} (hw : '\x7b' ∉ w)
    (hs : Bodily s) (hr : rest ≠ [])
    (items : ∀ (m : Nat) (body : Rule (List Node)),
      (nodeAt (Inner.level m).next (bracesIn (w ++ s) + 1) .top <|>
          defineNode body : Rule Node).Repeats
        ⟨w ++ s, none⟩ ns ⟨rest, none⟩) : readTemplate (w ++ s) = none :=
  (readTemplate_eq hw hs items).trans (if_neg hr)

section
variable {p : Slot} (plain : p.Plain) {f : String}
include plain

/-- If the tag in it is read as a node, the text is read into that node and the texts around it. -/
theorem readTemplate_slot {n : Node} (tag : ∀ m inner rest o,
      node (Inner.level m).next inner p.area ⟨callTag f.toList rest, o⟩ = some (n, ⟨rest, o⟩)) :
    readTemplate (p.source f).toList = some (p.nodes n, none) := by
  cases p with
  | top before after =>
    obtain ⟨hb, ha⟩ := plain
    rw [Slot.toList_source_top]
    refine (readTemplate_eq hb (bodily_callTag _ _) fun m body => ?_).trans (if_pos rfl)
    have reads := item_readsText (Inner.level m).next
      (nodeAt (Inner.level m).next (bracesIn (before.toList ++ callTag f.toList after.toList))) body
    refine repeats_tag reads hb ?_ (repeats_last reads ha (item_done ..))
    rw [item_eq _ _ _ _ ((unsigned_callTag _ _).leadTag ..)]
    exact tag m _ _ _
  | block before name front back after =>
    obtain ⟨hb, hn, hf, hk, ha⟩ := plain
    rw [Slot.toList_source_block]
    -- the block takes one level of the rules for nodes, and every brace allows for one
    obtain ⟨k, depth⟩ := exists_bracesIn before.toList name.toList _
    refine (readTemplate_eq hb (bodily_blockStart _ _) fun m body => ?_).trans (if_pos rfl)
    rw [depth]
    have reads := item_readsText (Inner.level m).next (nodeAt (Inner.level m).next (k + 1)) body
    have readsBody := node_readsText (Inner.level m).next (nodeAt (Inner.level m).next k) .block
    have inside := repeats_tag readsBody hf (tag m _ _ none)
      (repeats_stuck readsBody hk (halt_signed _) (node_blockEnd none after.toList _ _))
    refine repeats_text reads (halt_signed _)
      (.cons ?_ ?_ (repeats_last reads ha (item_done ..))) hb
    · rw [item_eq _ _ _ _ (leadTag_signed none rfl rfl _)]
      exact (node_blockStart none hn _ _ inside).trans (by rw [String.ofList_toList])
    · simp [signed, callTag, calling, closing, blockEnd]
      omega

theorem readTemplate_slot_none (tag : ∀ m inner rest o,
      node (Inner.level m).next inner p.area ⟨callTag f.toList rest, o⟩ = none) :
    readTemplate (p.source f).toList = none := by
  cases p with
  | top before after =>
    obtain ⟨hb, ha⟩ := plain
    rw [Slot.toList_source_top]
    refine readTemplate_none hb (bodily_callTag _ _) (List.cons_ne_nil _ _) fun m body =>
      repeats_stuck (item_readsText _ _ body) hb (halt_callTag _ _) ?_
    rw [item_eq _ _ _ _ ((unsigned_callTag _ _).leadTag ..)]
    exact tag m _ _ _
  | block before name front back after =>
    obtain ⟨hb, hn, hf, hk, ha⟩ := plain
    rw [Slot.toList_source_block]
    obtain ⟨k, depth⟩ := exists_bracesIn before.toList name.toList _
    refine readTemplate_none hb (bodily_blockStart _ _) (List.cons_ne_nil _ _) fun m body =>
      repeats_stuck (item_readsText _ _ body) hb (halt_signed _) ?_
    have single : leadTag "macro" defineHead
      ⟨blockStart name.toList (front.toList ++ callTag f.toList
        (back.toList ++ blockEnd after.toList)), none⟩ = none := leadTag_signed none rfl rfl _
    rw [depth]
    refine (item_eq _ _ _ _ single).trans ?_
    have inside := repeats_stuck
      (node_readsText (Inner.level m).next (nodeAt (Inner.level m).next k) .block) hf
      (halt_callTag _ _) (tag m _ (back.toList ++ blockEnd after.toList) none)
    exact node_blockStart_none none hn _ _ inside (unsigned_callTag _ _)

end

end Markup

/-! ## Templates -/

theorem still_block (name : String) {body : List Node} (h : ∀ n ∈ body, n.Still) :
    (Node.block ⟨false, false⟩ name body ⟨false, false⟩).Still := by
  intro st _
  have same : (trimNodes (.opened false) body).close false = body := trimmed_still h
  simp [trimNode, TrimState.tag, same]

theorem blocksOf_eq_flatMap (ns : List Node) : blocksOf ns = ns.flatMap Node.blocks := by
  induction ns with
  | nil => rfl
  | cons n ns ih => rw [blocksOf, List.flatMap_cons, ih]

structure Node.Single (n : Node) : Prop where
  still : n.Still
  blocks : n.blocks = []
  links : n.links = []
  macros : macrosOf [n] = []

theorem single_callNode (v : List Char) : (callNode v).Single := ⟨still_output _, rfl, rfl, rfl⟩

theorem single_super : Node.super.Single := ⟨fun _ h => ⟨rfl, h⟩, rfl, rfl, rfl⟩

theorem flatMap_textNodes {α : Type} {f : Node → List α} (h : ∀ s, f (.text s) = []) (s : String) :
    (textNodes s).flatMap f = [] := by
  unfold textNodes
  split
  · rfl
  · simp [h]

theorem still_textNodes (s : String) : ∀ n ∈ textNodes s, n.Still := by
  intro n hn
  unfold textNodes at hn
  split at hn
  · cases hn
  · rw [List.mem_singleton.mp hn]
    exact still_text s

theorem Slot.callsOfNodes_nodes (p : Slot) (n : Node) : callsOfNodes (p.nodes n) = n.calls := by
  have texts (s : String) : (textNodes s).flatMap Node.calls = [] :=
    flatMap_textNodes (fun _ => rfl) s
  cases p with
  | top before after => simp [Slot.nodes, callsOfNodes_eq, texts]
  | block before name front back after => simp [Slot.nodes, callsOfNodes_eq, texts, Node.calls]

section
variable {p : Slot} {n : Node} (h : n.Single)
include h

theorem Slot.still : ∀ m ∈ p.nodes n, m.Still := by
  have around (front back : String) : ∀ m ∈ textNodes front ++ n :: textNodes back, m.Still := by
    intro m hm
    simp only [List.mem_append, List.mem_cons] at hm
    rcases hm with hm | rfl | hm
    · exact still_textNodes front m hm
    · exact h.still
    · exact still_textNodes back m hm
  cases p with
  | top before after => exact around before after
  | block before name front back after =>
    intro m hm
    simp only [Slot.nodes, List.mem_append, List.mem_cons] at hm
    rcases hm with hm | rfl | hm
    · exact still_textNodes before m hm
    · exact still_block name (around front back)
    · exact still_textNodes after m hm

theorem Slot.blocksOf_nodes : blocksOf (p.nodes n) = p.blocks n := by
  have texts (s : String) : (textNodes s).flatMap Node.blocks = [] :=
    flatMap_textNodes (fun _ => rfl) s
  cases p with
  | top before after => simp [Slot.nodes, Slot.blocks, blocksOf_eq_flatMap, texts, h.blocks]
  | block before name front back after =>
    simp [Slot.nodes, Slot.blocks, blocksOf_eq_flatMap, texts, h.blocks, Node.blocks]

theorem Slot.linksOfNodes_nodes : linksOfNodes (p.nodes n) = [] := by
  have texts (s : String) : (textNodes s).flatMap Node.links = [] :=
    flatMap_textNodes (fun _ => rfl) s
  cases p with
  | top before after => simp [Slot.nodes, linksOfNodes_eq_flatMap, texts, h.links]
  | block before name front back after =>
    simp [Slot.nodes, linksOfNodes_eq_flatMap, texts, h.links, Node.links]

theorem Slot.macrosOf_nodes : macrosOf (p.nodes n) = [] := by
  have texts (s : String) : macrosOf (textNodes s) = [] := by
    unfold textNodes
    split <;> rfl
  have append (a b : List Node) : macrosOf (a ++ b) = macrosOf a ++ macrosOf b :=
    List.filterMap_append
  cases p with
  | top before after =>
    show macrosOf (textNodes before ++ ([n] ++ textNodes after)) = []
    rw [append, append, texts, texts, h.macros]
    rfl
  | block before name front back after =>
    show macrosOf (textNodes before ++ ([_] ++ textNodes after)) = []
    rw [append, append, texts, texts]
    rfl

end

def Slot.template (n : Node) (name : String) (p : Slot) : Template :=
  ⟨name, p.nodes n, none, [], [], p.blocks n, []⟩

theorem Slot.ofSource {p : Slot} {n : Node} {f : String} (h : n.Single)
    (read : readTemplate (p.source f).toList = some (p.nodes n, none)) (library : Library)
    (name : String) :
    Template.ofSource library name (p.source f) = .ok (p.template n name) := by
  have blocks := p.blocksOf_nodes h
  have once : firstRepeated? [] ((blocksOf (p.nodes n)).map (·.1)) = none := by
    rw [blocks]
    cases p <;> rfl
  have template := Template.ofSource_of_still read (p.still h) once (p.macrosOf_nodes h)
    (p.linksOfNodes_nodes h)
    library name
  rwa [blocks] at template

/-! ## Calls in their slots -/

/-- The tag of a call is read as something else. -/
def Slot.Hides (f : String) (p : Slot) : Prop := LedByTruth f.toList ∨ p.InBlock ∧ f = "super"

section
variable {p : Slot} (plain : p.Plain) {f : String} (name : Identifier f.toList) (library : Library)
  (t : String)
include plain name

theorem Slot.ofSource_call (shown : ¬p.Hides f) :
    Template.ofSource library t (p.source f) = .ok (p.template (callNode f.toList) t) := by
  obtain ⟨unled, other⟩ := not_or.mp shown
  refine Slot.ofSource (single_callNode _)
    (readTemplate_slot plain fun m inner rest o => ?_) library t
  refine name.node_call rest o unled (fun block same => other ⟨?_, ?_⟩) (.level m) inner
  · cases p with
    | top _ _ => cases block
    | block _ _ _ _ _ => trivial
  · exact String.toList_inj.mp same

theorem Slot.ofSource_led (led : LedByTruth f.toList) :
    Template.ofSource library t (p.source f) = .error .malformed := by
  have none := readTemplate_slot_none plain fun m inner rest o =>
    name.node_led rest o led p.area m inner
  unfold Template.ofSource readNodes
  rw [none]
  rfl

end

/-- In a block, the call of `super` is read as the place of the block below. -/
theorem Slot.ofSource_super {p : Slot} (plain : p.Plain) (block : p.InBlock) (library : Library)
    (t : String) :
    Template.ofSource library t (p.source "super") = .ok (p.template .super t) := by
  refine Slot.ofSource single_super (readTemplate_slot plain fun m inner rest o => ?_) library t
  cases p with
  | top _ _ => cases block
  | block _ _ _ _ _ => exact node_super (Inner.level m).next inner rest o

end ViewWeave
