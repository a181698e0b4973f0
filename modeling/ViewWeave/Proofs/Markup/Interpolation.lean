import ViewWeave.Markup.Calls
import ViewWeave.Proofs.Markup.NameTag
import ViewWeave.Proofs.Markup.Template

/-!
# Texts with names in them

A text in which some names of variables stand between braces, and nothing else does, is a template:
it is read into its pieces of text and its names, with all its white space.
-/

namespace ViewWeave

/-- A text with names of variables between its pieces. -/
inductive Interpolation
  | last (s : String)
  | tag (before name : String) (rest : Interpolation)

namespace Interpolation

def source : Interpolation → String
  | last s => s
  | tag s v rest => s ++ "\x7b\x7b " ++ v ++ " \x7d\x7d" ++ rest.source

def names : Interpolation → List String
  | last _ => []
  | tag _ v rest => v :: rest.names

/-- No piece of text has an opening brace in it, and the names are plain. -/
def Plain : Interpolation → Prop
  | last s => '\x7b' ∉ s.toList
  | tag s v rest => '\x7b' ∉ s.toList ∧ Markup.PlainName v.toList ∧ rest.Plain

instance decidablePlain : (i : Interpolation) → Decidable i.Plain
  | last s => inferInstanceAs (Decidable ('\x7b' ∉ s.toList))
  | tag s v rest =>
    have := decidablePlain rest
    inferInstanceAs (Decidable ('\x7b' ∉ s.toList ∧ Markup.PlainName v.toList ∧ rest.Plain))

def textNodes (s : String) : List Node := if s = "" then [] else [.text s]

def nodes : Interpolation → List Node
  | last s => textNodes s
  | tag s v rest => textNodes s ++ .output ⟨false, false⟩ (.plain (.path v)) :: rest.nodes

end Interpolation

namespace Markup

open Rule Interpolation

/-! ## Pieces of text -/

inductive Stop : List Char → Prop
  | done : Stop []
  | name {v rest : List Char} : PlainName v → Stop ('\x7b' :: '\x7b' :: ' ' :: (v ++ closing rest))

def Unsigned (s : List Char) : Prop := ∀ c r, s = '\x7b' :: c :: r → c = '\x7b'

def Halt (s : List Char) : Prop := s = [] ∨ startsTag s

theorem Stop.halt {s : List Char} (h : Stop s) : Halt s := by
  cases h with
  | done => exact .inl rfl
  | name _ => exact .inr rfl

theorem Stop.unsigned {s : List Char} (h : Stop s) : Unsigned s := by
  intro c r hs
  cases h with
  | done => cases hs
  | name _ => simp_all [eq_comm]

theorem unsigned_of_text {c : Char} {w s : List Char} (h : '\x7b' ∉ c :: w) :
    Unsigned (c :: w ++ s) := by
  intro d r hs
  simp_all

theorem only_of_none {α : Type} {b : Bool} {p : Rule α} {c : Cursor} (h : p c = none) :
    only b p c = none := by
  cases b with
  | false => rfl
  | true => exact h

section
variable {s : List Char} (h : Unsigned s) (o : Option String)
include h

theorem Unsigned.lit {w : String} (hw : ∃ c r, w.toList = '\x7b' :: c :: r ∧ c ≠ '\x7b') :
    Rule.lit w ⟨s, o⟩ = none := by
  obtain ⟨c, r, hw, hc⟩ := hw
  refine lit_of_ne fun t ht => hc (h c (r ++ t) ?_)
  simpa [hw] using ht

theorem Unsigned.tagStart : Markup.tagStart ⟨s, o⟩ = none := by
  simp [Markup.tagStart, h.lit o (w := "\x7b%-") ⟨_, _, rfl, by decide⟩,
    h.lit o (w := "\x7b%") ⟨_, _, rfl, by decide⟩]

theorem Unsigned.commentNode : Markup.commentNode ⟨s, o⟩ = none := by
  simp [Markup.commentNode, commentStart, h.lit o (w := "\x7b#-") ⟨_, _, rfl, by decide⟩,
    h.lit o (w := "\x7b#") ⟨_, _, rfl, by decide⟩]

theorem Unsigned.leadTag {α : Type} (word : String) (p : Rule α) :
    Markup.leadTag word p ⟨s, o⟩ = none := by
  simp [Markup.leadTag, h.tagStart o]

theorem Unsigned.wordTag (word : String) : Markup.wordTag word ⟨s, o⟩ = none := by
  simp [Markup.wordTag, h.tagStart o]

/-- Where no tag with a sign begins, a node is an output tag or a text. -/
theorem Unsigned.node (e : Inner) (inner : Area → Rule Node) (a : Area) :
    Markup.node e inner a ⟨s, o⟩ =
      (only (a == .block) superNode <|> outputNode e <|> textNode : Rule Node) ⟨s, o⟩ := by
  have block : Markup.blockNode (many (inner .block)) ⟨s, o⟩ = none := by
    simp [blockNode, h.leadTag o]
  simp [Markup.node, inclusionNode, setNode, condNode, branch, loopNode, filteredNode, rawNode,
    only_of_none, block, h.leadTag o, h.commentNode o, h.wordTag o]

end

/-! ## Nodes -/

theorem dropUntil_text {s : List Char} (h : Halt s) :
    ∀ {w : List Char}, '\x7b' ∉ w → dropUntil startsTag (w ++ s) = s
  | [], _ => by
    rw [List.nil_append]
    rcases h with rfl | h
    · rfl
    · cases s with
      | nil => rfl
      | cons c s => rw [dropUntil, if_pos h]
  | c :: w, hw => by
    simp only [List.mem_cons, not_or] at hw
    have go : startsTag (c :: (w ++ s)) = false := by
      unfold startsTag
      split <;> simp_all
    simp [dropUntil, go, dropUntil_text h hw.2]

theorem textNode_text {c : Char} {w s : List Char} (h : Halt s) (hw : '\x7b' ∉ c :: w)
    (o : Option String) : textNode ⟨c :: w ++ s, o⟩ =
      some (.text (String.ofList (c :: w)), ⟨s, o⟩) := by
  simp only [List.mem_cons, not_or] at hw
  have go : startsTag (c :: (w ++ s)) = false := by
    unfold startsTag
    split <;> simp_all
  unfold textNode
  rw [bind_apply, matched_append (w := c :: w) (s := s)]
  · rfl
  · change andThen _ _ _ = _
    simp [andThen, go, one, upToPlace, dropUntil_text h hw.2]

theorem outputStart_of_ne {c : Char} {s : List Char} (h : c ≠ '\x7b') (o : Option String) :
    outputStart ⟨c :: s, o⟩ = none := by
  have hc : '\x7b' ≠ c := Ne.symm h
  simp [outputStart, lit_of_head (w := "\x7b\x7b-") (c := c) (by simpa using hc),
    lit_of_head (w := "\x7b\x7b") (c := c) (by simpa using hc)]

section
variable (r : Inner) (inner : Area → Rule Node) (o : Option String)

theorem node_text (a : Area) {c : Char} {w s : List Char} (h : Halt s) (hw : '\x7b' ∉ c :: w) :
    node r inner a ⟨c :: w ++ s, o⟩ = some (.text (String.ofList (c :: w)), ⟨s, o⟩) := by
  have hc : c ≠ '\x7b' := by
    rintro rfl
    simp at hw
  have noSuper : superNode ⟨c :: w ++ s, o⟩ = none := by simp [superNode, outputStart_of_ne hc]
  rw [(unsigned_of_text hw).node, orElse_apply, only_of_none noSuper]
  simp only [orElse_apply, outputNode, bind_apply, List.cons_append, outputStart_of_ne hc]
  exact textNode_text h hw o

theorem node_name {v : List Char} (h : PlainName v) (rest : List Char) :
    node r.next inner .top ⟨'\x7b' :: '\x7b' :: ' ' :: (v ++ closing rest), o⟩ =
      some (.output ⟨false, false⟩ (.plain (.path (String.ofList v))), ⟨rest, o⟩) := by
  have opened : outputStart ⟨'\x7b' :: '\x7b' :: ' ' :: (v ++ closing rest), o⟩ =
      some (false, ⟨' ' :: (v ++ closing rest), o⟩) := rfl
  have blank : skip ⟨' ' :: (v ++ closing rest), o⟩ = some ((), ⟨v ++ closing rest, o⟩) :=
    h.identifier.skip _ o
  have closed : outputEnd ⟨braces rest, o⟩ = some (false, ⟨rest, o⟩) := rfl
  rw [(Stop.name h).unsigned.node]
  simp [only, outputNode, opened, blank, h.value rest o r, skip_braces, closed]

theorem node_done : node r inner .top ⟨[], o⟩ = none := by
  rw [Stop.done.unsigned.node]
  rfl

end

/-! ## Templates -/

/-- Neither a comment nor a tag that belongs to the head of a template begins here. -/
structure Bodily (s : List Char) : Prop where
  tight : s.dropWhile isSpace = s
  comment (o : Option String) : commentNode ⟨s, o⟩ = none
  extend {α : Type} (p : Rule α) (o : Option String) : leadTag "extends" p ⟨s, o⟩ = none
  importing {α : Type} (p : Rule α) (o : Option String) : leadTag "import" p ⟨s, o⟩ = none

theorem Unsigned.bodily {s : List Char} (h : Unsigned s) (tight : s.dropWhile isSpace = s) :
    Bodily s :=
  ⟨tight, h.commentNode, fun p o => h.leadTag o _ p, fun p o => h.leadTag o _ p⟩

theorem Stop.bodily {s : List Char} (h : Stop s) : Bodily s := by
  refine h.unsigned.bodily ?_
  cases h <;> rfl

theorem Bodily.skip_text {s : List Char} (h : Bodily s) :
    ∀ {w : List Char}, '\x7b' ∉ w → Bodily ((w ++ s).dropWhile isSpace)
  | [], _ => by
    rw [List.nil_append, h.tight]
    exact h
  | c :: w, hw => by
    rw [List.cons_append, List.dropWhile_cons]
    split
    case isTrue => exact h.skip_text fun hm => hw (List.mem_cons_of_mem _ hm)
    case isFalse hc => exact (unsigned_of_text hw).bodily (by simp [hc])

section
variable {s : List Char} (h : Bodily s) (o : Option String)
include h

theorem Bodily.head_none {w : List Char} (hw : '\x7b' ∉ w) : head ⟨w ++ s, o⟩ = none := by
  have stop := h.skip_text hw
  simp [head, extendNode, importNode, skip, run, stop.extend, stop.importing]

theorem Bodily.comment_none {w : List Char} (hw : '\x7b' ∉ w) : commentNode ⟨w ++ s, o⟩ = none := by
  cases w with
  | nil => exact h.comment o
  | cons c w => exact (unsigned_of_text hw).commentNode o

end

theorem toList_source_tag (s v : String) (rest : Interpolation) :
    (tag s v rest).source.toList =
      s.toList ++ '\x7b' :: '\x7b' :: ' ' :: (v.toList ++ closing rest.source.toList) := by
  simp [source, closing]

theorem exists_text {i : Interpolation} (h : i.Plain) :
    ∃ w s, i.source.toList = w ++ s ∧ '\x7b' ∉ w ∧ Stop s := by
  cases i with
  | last s => exact ⟨s.toList, [], (List.append_nil _).symm, h, .done⟩
  | tag s v rest => exact ⟨s.toList, _, toList_source_tag s v rest, h.1, .name h.2.1⟩

def ReadsText (p : Rule Node) : Prop :=
  ∀ (c : Char) (w s : List Char) (o : Option String), Halt s → '\x7b' ∉ c :: w →
    p ⟨c :: w ++ s, o⟩ = some (.text (String.ofList (c :: w)), ⟨s, o⟩)

theorem repeats_text {p : Rule Node} (reads : ReadsText p) {s : List Char} {ns : List Node}
    {e : Cursor} {o : Option String} (h : Halt s) (hp : p.Repeats ⟨s, o⟩ ns e) {w : String}
    (hw : '\x7b' ∉ w.toList) :
    p.Repeats ⟨w.toList ++ s, o⟩ (textNodes w ++ ns) e := by
  unfold textNodes
  by_cases hempty : w = ""
  · simpa [hempty] using hp
  · rw [if_neg hempty]
    cases hl : w.toList with
    | nil => exact absurd (String.toList_inj.mp hl) hempty
    | cons c cs =>
      rw [hl] at hw
      have text : String.ofList (c :: cs) = w := by rw [← hl, String.ofList_toList]
      refine .cons ?_ (by simp only [List.length_append, List.length_cons]; omega) hp
      rw [reads c cs s o h hw, text]

section
variable (r : Inner) (inner : Area → Rule Node) (body : Rule (List Node)) (o : Option String)

theorem node_readsText (a : Area) : ReadsText (node r inner a) :=
  fun _ _ _ o h hw => node_text r inner o a h hw

theorem item_readsText : ReadsText (node r inner .top <|> defineNode body) := by
  intro c w s o h hw
  rw [orElse_apply, node_text r inner o .top h hw]

theorem repeats_nodes {i : Interpolation} (h : i.Plain) :
    (node r.next inner .top <|> defineNode body : Rule Node).Repeats ⟨i.source.toList, o⟩ i.nodes
      ⟨[], o⟩ := by
  induction i with
  | last s =>
    have stop : (node r.next inner .top <|> defineNode body : Rule Node) ⟨[], o⟩ = none := by
      simp [node_done, defineNode, Stop.done.unsigned.leadTag]
    simpa [source, nodes] using
      repeats_text (item_readsText r.next inner body) Stop.done.halt (.nil stop) h
  | tag s v rest ih =>
    rw [toList_source_tag]
    refine repeats_text (item_readsText r.next inner body) (Stop.name h.2.1).halt
      (.cons ?_ ?_ (ih h.2.2)) h.1
    · rw [orElse_apply, node_name r inner o h.2.1, String.ofList_toList]
    · simp [closing]
      omega

end

/-- A template is read if its nodes are, whatever the depths of brackets and bodies, up to its
end. -/
theorem readTemplate_eq {w s rest : List Char} {ns : List Node} (hw : '\x7b' ∉ w) (hs : Bodily s)
    (items : ∀ (m : Nat) (body : Rule (List Node)),
      (nodeAt (Inner.level m).next (bracesIn (w ++ s) + 1) .top <|>
        defineNode body : Rule Node).Repeats
        ⟨w ++ s, none⟩ ns ⟨rest, none⟩) :
    readTemplate (w ++ s) = if rest = [] then some (ns, none) else none := by
  have level : Inner.level (bracketsAhead ⟨w ++ s, none⟩ + 1) =
      (Inner.level (bracketsAhead ⟨w ++ s, none⟩)).next :=
    rfl
  unfold readTemplate template
  rw [level]
  have all := (items (bracketsAhead ⟨w ++ s, none⟩)
    (many (nodeAt (Inner.level (bracketsAhead ⟨w ++ s, none⟩)).next
      (bracesIn (w ++ s) + 1) .definition))).many
  simp only [bind_apply, many_of_none (hs.comment_none none hw), opt_of_none (hs.head_none none hw),
    all]
  cases rest with
  | nil => rfl
  | cons c rest => rfl

/-- **Reading.** A text with plain names is read into its pieces and its names. -/
theorem readTemplate_source {i : Interpolation} (h : i.Plain) :
    readTemplate i.source.toList = some (i.nodes, none) := by
  obtain ⟨w, s, hi, hw, hs⟩ := exists_text h
  rw [hi]
  refine (readTemplate_eq hw hs.bodily fun m body => ?_).trans (if_pos rfl)
  rw [← hi]
  exact repeats_nodes (.level m) (nodeAt (Inner.level m).next (bracesIn i.source.toList))
    body none h

end Markup

/-! ## Nodes without effect on what is around them -/

def Node.Still (n : Node) : Prop :=
  ∀ st : Markup.TrimState, st.trimNext = false →
    (Markup.trimNode st n).done = n :: st.done ∧ (Markup.trimNode st n).trimNext = false

theorem trimNodes_still : ∀ {ns : List Node}, (∀ n ∈ ns, n.Still) → ∀ {st : Markup.TrimState},
    st.trimNext = false → (Markup.trimNodes st ns).done = ns.reverse ++ st.done
  | [], _, _, _ => rfl
  | n :: ns, h, st, hst => by
    obtain ⟨done, next⟩ := h n (List.mem_cons_self ..) st hst
    rw [Markup.trimNodes, trimNodes_still (fun m hm => h m (List.mem_cons_of_mem _ hm)) next, done]
    simp

theorem trimmed_still {ns : List Node} (h : ∀ n ∈ ns, n.Still) : Markup.trimmed ns = ns := by
  simp [Markup.trimmed, Markup.TrimState.close, Markup.TrimState.opened, trimNodes_still h]

theorem still_text (s : String) : (Node.text s).Still := by
  intro st hst
  simp [Markup.trimNode, Markup.TrimState.text, hst]

theorem still_output (e : Expr) : (Node.output ⟨false, false⟩ e).Still := by
  intro st _
  simp [Markup.trimNode, Markup.TrimState.tag]

section
variable {source : String} {nodes : List Node}
  (read : Markup.readTemplate source.toList = some (nodes, none))
  (still : ∀ n ∈ nodes, n.Still) (once : firstRepeated? [] ((blocksOf nodes).map (·.1)) = none)
  (macros : macrosOf nodes = [])
include read still once macros

theorem readNodes_of_still : readNodes source = .ok nodes := by
  unfold readNodes
  rw [read]
  dsimp only [Option.elim, bind, Except.bind]
  rw [trimmed_still still, once, macros]
  rfl

/-- A text whose nodes have no effect on each other and link to nothing is a template of these nodes
in whatever library. -/
theorem Template.ofSource_of_still (links : linksOfNodes nodes = []) (library : Library)
    (name : String) :
    Template.ofSource library name source =
      .ok ⟨name, nodes, none, [], [], blocksOf nodes, []⟩ := by
  refine Template.ofSource_eq_ok_iff.mpr ⟨rfl, ?_⟩
  exact {
    nodes := readNodes_of_still read still once macros
    parent := (parentOf_eq_none links).symm
    parents := by
      dsimp only
      rw [parentOf_eq_none links]
      rfl
    imports := (importsOf_eq_nil links).symm
    present := rfl
    blocks := rfl
    macros := macros.symm }

end

inductive Node.Bare : Node → Prop
  | text (s : String) : Bare (.text s)
  | path (p : String) : Bare (.output ⟨false, false⟩ (.plain (.path p)))

theorem Interpolation.bare (i : Interpolation) : ∀ n ∈ i.nodes, n.Bare := by
  have texts (s : String) : ∀ n ∈ textNodes s, n.Bare := by
    unfold textNodes
    split
    · simp
    · simpa using .text s
  induction i with
  | last s => exact texts s
  | tag s v rest ih =>
    intro n hn
    simp only [nodes, List.mem_append, List.mem_cons] at hn
    rcases hn with hn | rfl | hn
    · exact texts s n hn
    · exact .path v
    · exact ih n hn

section
variable {ns : List Node} (h : ∀ n ∈ ns, n.Bare)
include h

theorem still_bare : ∀ n ∈ ns, n.Still := by
  intro n hn
  cases h n hn with
  | text s => exact still_text s
  | path p => exact still_output _

theorem blocksOf_bare : blocksOf ns = [] := by
  induction ns with
  | nil => rfl
  | cons n ns ih =>
    rw [blocksOf, ih fun m hm => h m (List.mem_cons_of_mem _ hm)]
    cases h n (List.mem_cons_self ..) <;> rfl

theorem macrosOf_bare : macrosOf ns = [] := by
  unfold macrosOf
  rw [List.filterMap_eq_nil_iff]
  intro n hn
  cases h n hn <;> rfl

theorem linksOfNodes_bare : linksOfNodes ns = [] := by
  rw [linksOfNodes_eq_flatMap, List.flatMap_eq_nil_iff]
  intro n hn
  cases h n hn <;> rfl

theorem callsOfNodes_bare : callsOfNodes ns = [] := by
  induction ns with
  | nil => rfl
  | cons n ns ih =>
    rw [callsOfNodes, ih fun m hm => h m (List.mem_cons_of_mem _ hm)]
    cases h n (List.mem_cons_self ..) <;> rfl

end

/-! ## Templates -/

def Interpolation.template (i : Interpolation) (name : String) : Template :=
  ⟨name, i.nodes, none, [], [], [], []⟩

theorem ofSource_source {i : Interpolation} (h : i.Plain) (library : Library) (name : String) :
    Template.ofSource library name i.source = .ok (i.template name) := by
  have blocks := blocksOf_bare i.bare
  have template := Template.ofSource_of_still (Markup.readTemplate_source h) (still_bare i.bare)
    (by rw [blocks]; rfl) (macrosOf_bare i.bare) (linksOfNodes_bare i.bare) library name
  rwa [blocks] at template

end ViewWeave
