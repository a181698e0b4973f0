import ViewWeave.Proofs.Markup.Interpolation

/-!
# Tags that hold a call

An output tag with nothing in it but a call without arguments is read as that call, unless the name
begins with a word for a truth value. Such a word is read wherever it stands, and behind it the tag
does not end. In a block the name may not be `super` either.
-/

namespace ViewWeave.Markup

open Rule

def calling (rest : List Char) : List Char := '(' :: ')' :: closing rest

def callTag (v rest : List Char) : List Char := '\x7b' :: '\x7b' :: ' ' :: (v ++ calling rest)

def truthWords : List String := ["true", "false", "True", "False"]

def LedByTruth (v : List Char) : Prop := ∃ w ∈ truthWords, w.toList <+: v

instance (v : List Char) : Decidable (LedByTruth v) :=
  inferInstanceAs (Decidable (∃ w ∈ truthWords, w.toList <+: v))

theorem border_calling (rest : List Char) : Border (calling rest) := by
  intro c hc
  cases hc
  decide

theorem skip_calling (rest : List Char) (o : Option String) :
    skip ⟨calling rest, o⟩ = some ((), ⟨calling rest, o⟩) := rfl

theorem lit_calling {w : String} (hw : w.toList.head?.any (· != '(')) (rest : List Char)
    (o : Option String) :
    lit w ⟨calling rest, o⟩ = none := lit_of_head hw

/-! ## Before the brackets -/

section
variable {u : List Char} (hu : u.all isNameChar) (rest : List Char) (o : Option String)

/-- A word without a bracket is read within the name, or not at all. -/
theorem lit_inside {w : String} (hw : '(' ∉ w.toList) (u rest : List Char) (o : Option String) :
    lit w ⟨u ++ calling rest, o⟩ = none ∨
      ∃ u', u = w.toList ++ u' ∧ lit w ⟨u ++ calling rest, o⟩ =
        some ((), ⟨u' ++ calling rest, o⟩) := by
  cases hd : Text.dropStart? w.toList u with
  | none =>
    left
    have none := dropStart?_append (s := calling rest) (fun c hc => by cases hc; exact hw) hd
    simp [lit, none]
  | some u' =>
    right
    have prefixed := Text.dropStart?_eq_some_iff.mp hd
    have whole : Text.dropStart? w.toList (u ++ calling rest) = some (u' ++ calling rest) :=
      Text.dropStart?_eq_some_iff.mpr (by rw [prefixed, List.append_assoc])
    exact ⟨u', prefixed, by simp [lit, whole]⟩

include hu

theorem exists_inside : ∃ c s, u ++ calling rest = c :: s ∧ (isNameChar c ∨ c = '(') := by
  cases u with
  | nil => exact ⟨'(', _, rfl, .inr rfl⟩
  | cons c u => exact ⟨c, _, rfl, .inl (List.all_eq_true.mp hu c (List.mem_cons_self ..))⟩

theorem one_inside {p : Char → Bool} (name : ∀ c, isNameChar c → p c = false)
    (bracket : p '(' = false) :
    one p ⟨u ++ calling rest, o⟩ = none := by
  obtain ⟨c, s, hs, hc⟩ := exists_inside hu rest
  have out : p c = false := hc.elim (name c) fun same => same ▸ bracket
  simp [hs, one, out]

theorem lit_outside {w : String} (hw : w.toList.head?.any fun d => !isNameChar d && d != '(') :
    lit w ⟨u ++ calling rest, o⟩ = none := by
  obtain ⟨c, s, hs, hc⟩ := exists_inside hu rest
  rw [hs]
  refine lit_of_head ?_
  cases hl : w.toList.head? with
  | none => simp [hl] at hw
  | some d =>
    simp only [hl, Option.any_some, Bool.and_eq_true, Bool.not_eq_true', bne_iff_ne] at hw ⊢
    rintro rfl
    rcases hc with hc | hc
    · simp [hw.1] at hc
    · exact hw.2 hc

theorem skip_inside : skip ⟨u ++ calling rest, o⟩ = some ((), ⟨u ++ calling rest, o⟩) := by
  obtain ⟨c, s, hs, hc⟩ := exists_inside hu rest
  have out : isSpace c = false :=
    hc.elim (fun hc => isSpace_of_isNameChar hc) fun same => same ▸ rfl
  simp [skip, run, hs, out]

theorem wordOp_inside {w : String} (hw : '(' ∉ w.toList) :
    wordOp w ⟨u ++ calling rest, o⟩ = none := by
  rcases lit_inside hw u rest o with none | ⟨u', parts, read⟩
  · simp [wordOp, none]
  · rw [parts, List.all_append, Bool.and_eq_true] at hu
    have stop := one_inside hu.2 rest o (p := isSpace) (fun c hc => isSpace_of_isNameChar hc) rfl
    simp [wordOp, read, stop]

theorem ends_inside : Ends ⟨u ++ calling rest, o⟩ where
  skip := skip_inside hu rest o
  arith := by
    simp [arithOp, lit_outside hu rest o (w := "+") rfl, lit_outside hu rest o (w := "-") rfl,
      lit_outside hu rest o (w := "*") rfl, lit_outside hu rest o (w := "/") rfl,
      lit_outside hu rest o (w := "%") rfl]
  filter := lit_outside hu rest o rfl
  compare := by
    simp [compareOp, lit_outside hu rest o (w := "<=") rfl, lit_outside hu rest o (w := ">=") rfl,
      lit_outside hu rest o (w := ">") rfl, lit_outside hu rest o (w := "<") rfl,
      lit_outside hu rest o (w := "==") rfl, lit_outside hu rest o (w := "!=") rfl]
  logic := by
    simp [logicOp, wordOp_inside hu rest o (w := "or") (by decide),
      wordOp_inside hu rest o (w := "and") (by decide)]

/-! ## What else may stand before the brackets -/

theorem wholeDigits_inside : wholeDigits ⟨u ++ calling rest, o⟩ = none ∨
    ∃ u', u'.all isNameChar ∧ wholeDigits ⟨u ++ calling rest, o⟩ =
      some ((), ⟨u' ++ calling rest, o⟩) := by
  rcases lit_inside (w := "0") (by decide) u rest o with none | ⟨u', parts, read⟩
  · cases u with
    | nil => exact .inl rfl
    | cons c u =>
      have chars := (List.all_eq_true.mp hu)
      by_cases hc : isLeadDigit c
      · have digits : (u ++ calling rest).dropWhile Char.isDigit =
            u.dropWhile Char.isDigit ++ calling rest := by
          rw [List.dropWhile_append]
          split
          case isTrue all =>
            rw [List.isEmpty_iff.mp all]
            rfl
          case isFalse => rfl
        refine .inr ⟨u.dropWhile Char.isDigit, List.all_eq_true.mpr fun d hd => ?_, ?_⟩
        · exact chars d (List.mem_cons_of_mem _ ((List.dropWhile_suffix _).subset hd))
        · simp only [List.cons_append] at none
          simp [wholeDigits, none, one, hc, run, digits]
      · simp only [List.cons_append] at none
        exact .inl (by simp [wholeDigits, none, one, hc])
  · rw [parts, List.all_append, Bool.and_eq_true] at hu
    exact .inr ⟨u', hu.2, by simp [wholeDigits, read]⟩

theorem unsigned_inside :
    opt (lit "-") ⟨u ++ calling rest, o⟩ = some (none, ⟨u ++ calling rest, o⟩) :=
  opt_of_none (lit_outside hu rest o rfl)

theorem double_inside : double ⟨u ++ calling rest, o⟩ = none := by
  have pointless : pointText ⟨u ++ calling rest, o⟩ = none := by
    rcases wholeDigits_inside hu rest o with none | ⟨u', hu', read⟩
    · simp [pointText, unsigned_inside hu, none]
    · simp [pointText, unsigned_inside hu, read, lit_outside hu' rest o (w := ".") rfl]
  simp [double, matched, pointless]

theorem whole_inside : whole ⟨u ++ calling rest, o⟩ = none ∨
    ∃ i u' o', u'.all isNameChar ∧ whole ⟨u ++ calling rest, o⟩ =
      some (i, ⟨u' ++ calling rest, o'⟩) := by
  rcases wholeDigits_inside hu rest o with none | ⟨u', hu', read⟩
  · exact .inl (by simp [whole, matched, wholeText, unsigned_inside hu, none])
  · right
    simp only [whole, matched, wholeText, bind_apply, unsigned_inside hu, read, noteRange,
      pure_apply]
    split
    · exact ⟨_, u', _, hu', rfl⟩
    · exact ⟨_, u', _, hu', rfl⟩

theorem quotedText_inside : quotedText ⟨u ++ calling rest, o⟩ = none := by
  have mark {q : Char} (hq : isNameChar q = false) (hb : ('(' == q) = false) :
      between q ⟨u ++ calling rest, o⟩ = none := by
    have stop : one (· == q) ⟨u ++ calling rest, o⟩ = none := by
      refine one_inside hu rest o (fun c hc => ?_) hb
      rw [beq_eq_false_iff_ne]
      rintro rfl
      simp [hc] at hq
    simp [between, stop]
  simp [quotedText, mark (q := '"') rfl rfl, mark (q := '\x27') rfl rfl, mark (q := '\x60') rfl rfl]

theorem nameText_of_not (no : ¬Identifier u) : nameText ⟨u ++ calling rest, o⟩ = none := by
  have stop : one isNameStart ⟨u ++ calling rest, o⟩ = none := by
    cases u with
    | nil => rfl
    | cons c u =>
      have hc : isNameStart c = false := Bool.eq_false_iff.mpr fun start =>
        no ⟨by simpa using start, hu⟩
      simp [one, hc]
  simp [nameText, stop]

end

/-! ## Calls -/

namespace Identifier

variable {v : List Char} (h : Identifier v) (rest : List Char) (o : Option String) (r : Inner)
include h

theorem call :
    r.call ⟨v ++ calling rest, o⟩ = some (.mk (String.ofList v) [], ⟨closing rest, o⟩) := by
  have opened : Rule.lit "(" ⟨calling rest, o⟩ = some ((), ⟨')' :: closing rest, o⟩) := rfl
  have blank : Rule.skip ⟨')' :: closing rest, o⟩ = some ((), ⟨')' :: closing rest, o⟩) := rfl
  have none : opt r.args ⟨')' :: closing rest, o⟩ = some (none, ⟨')' :: closing rest, o⟩) :=
    opt_of_none rfl
  have closed : Rule.lit ")" ⟨')' :: closing rest, o⟩ = some ((), ⟨closing rest, o⟩) := rfl
  simp [Inner.call, h.name o (border_calling rest), skip_calling, opened, blank, none, closed]

theorem macroCall_call : r.macroCall ⟨v ++ calling rest, o⟩ = none := by
  simp [Inner.macroCall, h.name o (border_calling rest), skip_calling, lit_calling (w := "::") rfl]

theorem test_call :
    r.test ⟨v ++ calling rest, o⟩ = none ∧ r.testNot ⟨v ++ calling rest, o⟩ = none := by
  simp [Inner.test, Inner.testNot, h.path o (border_calling rest), skip_calling,
    lit_calling (w := "is") rfl]

end Identifier

theorem filteredText_inside {u : List Char} (hu : u.all isNameChar) (rest : List Char)
    (o : Option String) (r : Inner) : r.filteredText ⟨u ++ calling rest, o⟩ = none := by
  have concat : r.concat ⟨u ++ calling rest, o⟩ = none := by
    by_cases name : Identifier u
    · simp [Inner.concat, Inner.part, name.call rest o r, skip_closing, lit_brace (w := "~") rfl]
    · have nameless := nameText_of_not hu rest o name
      have noCall : r.call ⟨u ++ calling rest, o⟩ = none := by
        simp [Inner.call, Markup.name, matched, nameless]
      have noPath : path ⟨u ++ calling rest, o⟩ = none := by
        simp [path, matched, pathText, nameless]
      -- all that is left is a number, and no tilde is behind it
      rcases whole_inside hu rest o with none | ⟨i, u', o', hu', read⟩
      · simp [Inner.concat, Inner.part, noCall, noPath, double_inside hu, none,
          quotedText_inside hu]
      · simp [Inner.concat, Inner.part, noCall, double_inside hu, read, skip_inside hu',
          lit_outside hu' rest o' (w := "~") rfl]
  simp [Inner.filteredText, concat, quotedText_inside hu]

/-! ## Values -/

theorem truth_of_not_led {v : List Char} (h : ¬LedByTruth v) (rest : List Char)
    (o : Option String) :
    truth ⟨v ++ calling rest, o⟩ = none := by
  have word {w : String} (hw : w ∈ truthWords) (hb : '(' ∉ w.toList) :
      lit w ⟨v ++ calling rest, o⟩ = none := by
    rcases lit_inside hb v rest o with none | ⟨u, parts, -⟩
    · exact none
    · exact absurd ⟨w, hw, u, parts.symm⟩ h
  simp [truth, word (w := "true") (by decide) (by decide),
    word (w := "false") (by decide) (by decide), word (w := "True") (by decide) (by decide),
    word (w := "False") (by decide) (by decide)]

theorem truth_of_led {v : List Char} (h : LedByTruth v) (rest : List Char) (o : Option String) :
    ∃ b u, u <:+ v ∧ truth ⟨v ++ calling rest, o⟩ = some (b, ⟨u ++ calling rest, o⟩) := by
  obtain ⟨w, hw, u, rfl⟩ := h
  simp only [truthWords, List.mem_cons, List.not_mem_nil, or_false] at hw
  rcases hw with rfl | rfl | rfl | rfl
  · exact ⟨true, u, List.suffix_append _ u, rfl⟩
  · exact ⟨false, u, List.suffix_append _ u, rfl⟩
  · exact ⟨true, u, List.suffix_append _ u, rfl⟩
  · exact ⟨false, u, List.suffix_append _ u, rfl⟩

namespace Identifier

variable {v : List Char} (h : Identifier v) (rest : List Char) (o : Option String)
include h

theorem value_call (plain : ¬LedByTruth v) (r : Inner) : r.next.value ⟨v ++ calling rest, o⟩ =
    some (.plain (.call (.mk (String.ofList v) [])), ⟨braces rest, o⟩) := by
  have operand : r.operand ⟨v ++ calling rest, o⟩ =
      some (.call (.mk (String.ofList v) []), ⟨closing rest, o⟩) := by
    simp [Inner.operand, truth_of_not_led plain, h.test_call rest o r, h.macroCall_call rest o r,
      h.call rest o r]
  have alone :
      r.Alone ⟨v ++ calling rest, o⟩ (.call (.mk (String.ofList v) [])) ⟨braces rest, o⟩ := {
    ends := ends_braces rest o
    skip := h.skip _ o
    bracket := h.lit _ o rfl
    notWord := wordOp_inside h.chars rest o (by decide)
    text := filteredText_inside h.chars rest o r
    operand := ⟨_, operand, skip_closing rest o⟩ }
  have within : r.within ⟨v ++ calling rest, o⟩ = none := by
    rw [alone.within_of_not rfl]
    simp [lit_brace (w := "in") rfl]
  exact alone.value within

end Identifier

theorem level_array {c : Char} (hc : c ≠ '[') (s : List Char) (o : Option String) :
    ∀ m, (Inner.level m).array ⟨c :: s, o⟩ = none
  | 0 => rfl
  | m + 1 => by
    have stop : lit "[" ⟨c :: s, o⟩ = none := lit_of_head (by simpa using Ne.symm hc)
    show Inner.wholeArray _ _ = none
    simp [Inner.wholeArray, stop]

theorem container_inside {u : List Char} (hu : u.all isNameChar) (rest : List Char)
    (o : Option String) (m : Nat) :
    (Inner.level m).container ⟨u ++ calling rest, o⟩ = none ∨
      ∃ y, (Inner.level m).container ⟨u ++ calling rest, o⟩ = some (y, ⟨calling rest, o⟩) := by
  have text := filteredText_inside hu rest o (.level m)
  have array : (Inner.level m).array ⟨u ++ calling rest, o⟩ = none := by
    obtain ⟨c, s, hs, hc⟩ := exists_inside hu rest
    rw [hs]
    refine level_array ?_ s o m
    rintro rfl
    rcases hc with hc | hc <;> cases hc
  by_cases name : Identifier u
  · exact .inr ⟨.plain (.path (String.ofList u)),
      by simp [Inner.container, text, array, name.path o (border_calling rest)]⟩
  · have nameless : path ⟨u ++ calling rest, o⟩ = none := by
      simp [path, matched, pathText, nameText_of_not hu rest o name]
    exact .inl (by simp [Inner.container, text, array, nameless])

/-- Behind a word for a truth value, the value ends before the brackets. -/
theorem Identifier.value_led {v : List Char} (h : Identifier v) (led : LedByTruth v)
    (rest : List Char) (o : Option String) (m : Nat) :
    ∃ x u, u.all isNameChar ∧
      (Inner.level m).next.value ⟨v ++ calling rest, o⟩ = some (x, ⟨u ++ calling rest, o⟩) := by
  obtain ⟨b, u, suffix, truth⟩ := truth_of_led led rest o
  have hu : u.all isNameChar := List.all_eq_true.mpr fun c hc =>
    List.all_eq_true.mp h.chars c (suffix.subset hc)
  have ends := ends_inside hu rest o
  have alone : (Inner.level m).Alone ⟨v ++ calling rest, o⟩ (.bool b) ⟨u ++ calling rest, o⟩ := {
    ends := ends
    skip := h.skip _ o
    bracket := h.lit _ o rfl
    notWord := wordOp_inside h.chars rest o (by decide)
    text := filteredText_inside h.chars rest o _
    operand := ⟨_, by simp [Inner.operand, truth], ends.skip⟩ }
  have asked := alone.within_of_not (wordOp_inside hu rest o (by decide))
  -- the rest of the name may be read as what the truth value is in
  rcases lit_inside (w := "in") (by decide) u rest o with none | ⟨u', parts, read⟩
  · exact ⟨_, u, hu, alone.value (by simp [asked, none])⟩
  · have hu' : u'.all isNameChar := by
      rw [parts, List.all_append, Bool.and_eq_true] at hu
      exact hu.2
    rcases container_inside hu' rest o m with none | ⟨y, container⟩
    · exact ⟨_, u, hu, alone.value (by simp [asked, read, skip_inside hu', none])⟩
    · have within : (Inner.level m).within ⟨v ++ calling rest, o⟩ =
          some (.plain (.within false (.plain (.bool b)) y), ⟨calling rest, o⟩) := by
        simp [asked, read, skip_inside hu', container]
      exact ⟨_, [], rfl, alone.value_of_within within rfl rfl⟩

/-! ## Tags -/

def callNode (v : List Char) : Node :=
  .output ⟨false, false⟩ (.plain (.call (.mk (String.ofList v) [])))

def superName : List Char := "super".toList

theorem unsigned_callTag (v rest : List Char) : Unsigned (callTag v rest) := by
  intro c s hs
  cases hs
  rfl

theorem node_callTag (r : Inner) (inner : Area → Rule Node) (a : Area) (v rest : List Char)
    (o : Option String) :
    node r inner a ⟨callTag v rest, o⟩ =
      (only (a == .block) superNode <|> outputNode r : Rule Node) ⟨callTag v rest, o⟩ := by
  have noText : textNode ⟨callTag v rest, o⟩ = none := rfl
  rw [(unsigned_callTag v rest).node]
  simp only [orElse_apply, noText]
  cases only (a == .block) superNode ⟨callTag v rest, o⟩ with
  | some read => rfl
  | none => cases outputNode r ⟨callTag v rest, o⟩ <;> rfl

namespace Identifier

variable {v : List Char} (h : Identifier v) (rest : List Char) (o : Option String)
include h

theorem outputNode (r : Inner) : Markup.outputNode r ⟨callTag v rest, o⟩ =
      (do let x ← r.value; Rule.skip; return Node.output ⟨false, ← outputEnd⟩ x)
        ⟨v ++ calling rest, o⟩ := by
  have opened : outputStart ⟨callTag v rest, o⟩ = some (false, ⟨' ' :: (v ++ calling rest), o⟩) :=
    rfl
  have blank : Rule.skip ⟨' ' :: (v ++ calling rest), o⟩ = some ((), ⟨v ++ calling rest, o⟩) :=
    h.skip _ o
  simp [Markup.outputNode, opened, blank]

theorem superNode_of_ne (other : v ≠ superName) : superNode ⟨callTag v rest, o⟩ = none := by
  have opened : outputStart ⟨callTag v rest, o⟩ = some (false, ⟨' ' :: (v ++ calling rest), o⟩) :=
    rfl
  have blank : Rule.skip ⟨' ' :: (v ++ calling rest), o⟩ = some ((), ⟨v ++ calling rest, o⟩) :=
    h.skip _ o
  have stop : Rule.lit "super()" ⟨v ++ calling rest, o⟩ = none := by
    refine lit_of_ne fun t ht => other ?_
    have nameless : '(' ∉ v := fun hm => by cases List.all_eq_true.mp h.chars _ hm
    -- both texts are split at their first bracket
    have own : Text.splitOnce? '(' (v ++ calling rest) = some (v, ')' :: closing rest) :=
      Text.splitOnce?_eq_some_iff.mpr ⟨rfl, nameless⟩
    have word : Text.splitOnce? '(' (v ++ calling rest) = some (superName, ')' :: t) :=
      Text.splitOnce?_eq_some_iff.mpr ⟨ht, by decide⟩
    rw [own] at word
    exact congrArg Prod.fst (Option.some.inj word)
  simp [superNode, opened, blank, stop]

theorem node_call (plain : ¬LedByTruth v) {a : Area} (hs : a = .block → v ≠ superName) (r : Inner)
    (inner : Area → Rule Node) : node r.next inner a ⟨callTag v rest, o⟩ =
      some (callNode v, ⟨rest, o⟩) := by
  have noSuper : only (a == .block) superNode ⟨callTag v rest, o⟩ = none := by
    by_cases block : a = .block
    · exact only_of_none (h.superNode_of_ne rest o (hs block))
    · simp [only, block]
  have closed : outputEnd ⟨braces rest, o⟩ = some (false, ⟨rest, o⟩) := rfl
  rw [node_callTag, orElse_apply, noSuper]
  simp [h.outputNode, h.value_call rest o plain r, skip_braces, closed, callNode]

theorem node_led (led : LedByTruth v) (a : Area) (m : Nat) (inner : Area → Rule Node) :
    node (Inner.level m).next inner a ⟨callTag v rest, o⟩ = none := by
  have other : v ≠ superName := by
    rintro rfl
    revert led
    decide
  obtain ⟨x, u, hu, value⟩ := h.value_led led rest o m
  have unclosed : outputEnd ⟨u ++ calling rest, o⟩ = none := by
    simp [outputEnd, lit_outside hu rest o (w := "-\x7d\x7d") rfl,
      lit_outside hu rest o (w := "\x7d\x7d") rfl]
  rw [node_callTag, orElse_apply, only_of_none (h.superNode_of_ne rest o other)]
  simp [h.outputNode, value, skip_inside hu, unclosed]

end Identifier

theorem node_super (r : Inner) (inner : Area → Rule Node) (rest : List Char) (o : Option String) :
    node r inner .block ⟨callTag superName rest, o⟩ = some (.super, ⟨rest, o⟩) := by
  have read : superNode ⟨callTag superName rest, o⟩ = some (.super, ⟨rest, o⟩) := rfl
  rw [node_callTag, orElse_apply]
  simp [only, read]

end ViewWeave.Markup
