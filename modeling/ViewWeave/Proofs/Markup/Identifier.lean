import ViewWeave.Markup.ExprGrammar
import ViewWeave.Proofs.Markup.Reading

/-!
# Identifiers in tags

What rules make of a place where an identifier stands. Most refuse it at its first character; the
rules for names and paths read it to its end.
-/

namespace ViewWeave.Markup

open Rule

/-! ## First characters -/

theorem isLeadDigit_of_isNameStart {c : Char} (h : isNameStart c) : isLeadDigit c = false := by
  have alpha : c.isAlpha = (decide (c.val ≥ 'A'.val ∧ c.val ≤ 'Z'.val) ||
      (decide (c.val ≥ 'a'.val) && decide (c.val ≤ 'z'.val))) := rfl
  simp only [isNameStart, alpha, isLeadDigit, Bool.or_eq_true, Bool.and_eq_true, decide_eq_true_eq,
    beq_iff_eq, Bool.and_eq_false_iff, decide_eq_false_iff_not, Char.le_def,
    UInt32.le_iff_toNat_le] at h ⊢
  rcases h with (upper | lower) | rfl
  · simp at upper ⊢
    omega
  · simp at lower ⊢
    omega
  · decide

theorem isSpace_of_isNameChar {c : Char} (h : isNameChar c) : isSpace c = false := by
  cases hs : isSpace c with
  | false => rfl
  | true =>
    simp only [isSpace, Bool.or_eq_true, beq_iff_eq] at hs
    rcases hs with ((rfl | rfl) | rfl) | rfl <;> cases h

theorem isNameChar_of_isNameStart {c : Char} (h : isNameStart c) : isNameChar c := by
  simp [isNameChar, h]

theorem beq_of_isNameStart {c d : Char} (h : isNameStart c) (hd : isNameStart d = false) :
    (c == d) = false := by
  rw [beq_eq_false_iff_ne]
  rintro rfl
  simp [h] at hd

/-! ## Identifiers -/

/-- The text is one that tags take for a name. -/
structure Identifier (v : List Char) : Prop where
  start : v.head?.any isNameStart
  chars : v.all isNameChar

instance (v : List Char) : Decidable (Identifier v) :=
  decidable_of_iff (v.head?.any isNameStart ∧ v.all isNameChar)
    ⟨fun h => ⟨h.1, h.2⟩, fun h => ⟨h.start, h.chars⟩⟩

/-- What may stand behind a name for it to be a whole path. -/
def Border (s : List Char) : Prop := ∀ c ∈ s.head?, isNameChar c = false ∧ c ≠ '.' ∧ c ≠ '['

theorem dropStart?_append {w v s : List Char} (hs : ∀ c ∈ s.head?, c ∉ w)
    (h : Text.dropStart? w v = none) :
    Text.dropStart? w (v ++ s) = none := by
  induction w generalizing v with
  | nil => simp [Text.dropStart?] at h
  | cons d w ih =>
    cases v with
    | nil =>
      cases s with
      | nil => rfl
      | cons c s =>
        have other : d ≠ c := fun same => hs c rfl (same ▸ List.mem_cons_self ..)
        simp [Text.dropStart?, other]
    | cons c v =>
      simp only [Text.dropStart?, List.cons_append] at h ⊢
      split at h
      case isTrue same =>
        rw [if_pos same, ih (fun c hc hm => hs c hc (List.mem_cons_of_mem _ hm)) h]
      case isFalse other => rw [if_neg other]

namespace Identifier

variable {v : List Char} (h : Identifier v) (s : List Char) (o : Option String)
include h

theorem exists_cons : ∃ c cs, v = c :: cs ∧ isNameStart c ∧ cs.all isNameChar := by
  obtain ⟨start, chars⟩ := h
  cases v with
  | nil => cases start
  | cons c cs => exact ⟨c, cs, rfl, by simpa using start, (by simpa using chars : _ ∧ _).2⟩

/-! ## Rules that refuse a first character -/

theorem one {p : Char → Bool} (hp : ∀ c, isNameStart c → p c = false) :
    Rule.one p ⟨v ++ s, o⟩ = none := by
  obtain ⟨c, cs, rfl, hc, -⟩ := h.exists_cons
  simp [Rule.one, hp c hc]

theorem lit {w : String} (hw : w.toList.head?.any fun d => !isNameStart d) :
    Rule.lit w ⟨v ++ s, o⟩ = none := by
  obtain ⟨c, cs, rfl, hc, -⟩ := h.exists_cons
  cases hl : w.toList with
  | nil => simp [hl] at hw
  | cons d ds =>
    have hne : d ≠ c := by
      rintro rfl
      simp [hl, hc] at hw
    simp [Rule.lit, Text.dropStart?, hl, hne]

theorem skip : Rule.skip ⟨v ++ s, o⟩ = some ((), ⟨v ++ s, o⟩) := by
  obtain ⟨c, cs, rfl, hc, -⟩ := h.exists_cons
  simp [Rule.skip, run, isSpace_of_isNameChar (isNameChar_of_isNameStart hc)]

theorem quotedText : Markup.quotedText ⟨v ++ s, o⟩ = none := by
  have mark {q : Char} (hq : isNameStart q = false) : between q ⟨v ++ s, o⟩ = none := by
    simp [between, h.one s o fun c hc => beq_of_isNameStart hc hq]
  simp [Markup.quotedText, mark (q := '"') rfl, mark (q := '\x27') rfl, mark (q := '\x60') rfl]

theorem wholeDigits : Markup.wholeDigits ⟨v ++ s, o⟩ = none := by
  simp [Markup.wholeDigits, h.lit s o (w := "0") rfl,
    h.one s o fun c (hc : isNameStart c) => isLeadDigit_of_isNameStart hc]

theorem whole : Markup.whole ⟨v ++ s, o⟩ = none := by
  simp [Markup.whole, matched, wholeText, opt_of_none (h.lit s o (w := "-") rfl), h.wholeDigits s o]

theorem double : Markup.double ⟨v ++ s, o⟩ = none := by
  simp [Markup.double, matched, pointText, opt_of_none (h.lit s o (w := "-") rfl),
    h.wholeDigits s o]

/-! ## Rules that read an identifier -/

variable {s} (border : Border s)
include border

theorem nameText : Markup.nameText ⟨v ++ s, o⟩ = some ((), ⟨s, o⟩) := by
  obtain ⟨c, cs, rfl, hc, hcs⟩ := h.exists_cons
  have run := run_append (s := s) (o := o) (List.all_eq_true.mp hcs) fun d hd => by
    simp [(border d hd).1]
  simp [Markup.nameText, Rule.one, hc, run]

theorem name : Markup.name ⟨v ++ s, o⟩ = some (String.ofList v, ⟨s, o⟩) :=
  matched_append (h.nameText o border)

theorem path : Markup.path ⟨v ++ s, o⟩ = some (String.ofList v, ⟨s, o⟩) := by
  refine matched_append ?_
  have dot : Rule.lit "." ⟨s, o⟩ = none := by
    refine lit_of_ne fun r hr => ?_
    subst hr
    exact (border '.' rfl).2.1 rfl
  have bracket : Rule.lit "[" ⟨s, o⟩ = none := by
    refine lit_of_ne fun r hr => ?_
    subst hr
    exact (border '[' rfl).2.2 rfl
  have stop : many (dotField <|> do
      Rule.lit "["
      wholeText <|> (do let _ ← Markup.quotedText) <|> pathText (bracketsAhead ⟨v ++ s, o⟩)
      Rule.lit "]") ⟨s, o⟩ = some ([], ⟨s, o⟩) := many_of_none (by simp [dotField, dot, bracket])
  simp [pathText, h.nameText o border, stop]

end Identifier

/-! ## Operands alone -/

theorem chain_of_none {α ο : Type} {mk : ο → α → α → α} {tight : ο → Bool} {op : Rule ο}
    {operand : Rule α} {c c' e : Cursor} {x : α} (hx : operand c = some (x, c'))
    (hs : skip c' = some ((), e)) (ho : op e = none) :
    chain mk tight op operand c = some (x, e) := by
  have stop : manySpaced (operation op operand) e = some ([], e) :=
    manySpaced_of_none (by simp [operation, ho])
  simp [chain, hx, hs, stop, join, joinTight]

structure Ends (e : Cursor) : Prop where
  skip : Rule.skip e = some ((), e)
  arith : arithOp e = none
  filter : lit "|" e = none
  compare : compareOp e = none
  logic : logicOp e = none

/-- An operand stands at `c`, and nothing is added to it up to `e`. -/
structure Inner.Alone (r : Inner) (c : Cursor) (x : Operand) (e : Cursor) : Prop where
  ends : Ends e
  skip : Rule.skip c = some ((), c)
  bracket : lit "(" c = none
  notWord : wordOp "not" c = none
  text : r.filteredText c = none
  operand : ∃ c', r.operand c = some (x, c') ∧ Rule.skip c' = some ((), e)

namespace Inner.Alone

variable {r : Inner} {c e : Cursor} {x : Operand} (h : r.Alone c x e)
include h

theorem filteredSum : r.filteredSum c = some (.plain x, e) := by
  obtain ⟨c', operand, blank⟩ := h.operand
  have factor : r.factor c = some (x, c') := by simp [Inner.factor, h.bracket, operand]
  have sum : r.sum c = some (x, e) := chain_of_none factor blank h.ends.arith
  have stop : r.filters e = some ([], e) :=
    manySpaced_of_none (by simp [Inner.filter, h.ends.filter])
  simp [Inner.filteredSum, sum, h.ends.skip, stop, Expr.plain]

theorem within_of_not (no : wordOp "not" e = none) :
    r.within c =
      (do lit "in"; Rule.skip; let y ← r.container; return Expr.plain (.within false (.plain x) y))
        e := by
  simp [Inner.within, h.text, h.filteredSum, h.ends.skip, opt_of_none no]

theorem value (alone : r.within c = none) : r.next.value c = some (.plain x, e) := by
  have sums : r.filteredSums c = some (.plain x, e) :=
    chain_of_none h.filteredSum h.ends.skip h.ends.arith
  have side : r.side c = some (.plain x, e) := by simp [Inner.side, h.text, sums]
  have stop : opt (operation compareOp r.side) e = some (none, e) :=
    opt_of_none (by simp [operation, h.ends.compare])
  have comparison : r.comparison c = some (.plain x, e) := by
    simp [Inner.comparison, side, h.ends.skip, stop]
  have logic : r.logicOperand c = some (.plain x, e) := by
    simp [Inner.logicOperand, opt_of_none h.notWord, h.skip, alone, comparison, Expr.plain,
      Expr.withNegated]
  have value : r.next.logic c = some (.plain x, e) := chain_of_none logic h.ends.skip h.ends.logic
  simp [Inner.value, value]

theorem value_of_within {y : Expr} {f : Cursor} (within : r.within c = some (y, f))
    (ends : Rule.skip f = some ((), f)) (logic : logicOp f = none) :
    r.next.value c = some (y.withNegated false, f) := by
  have operand : r.logicOperand c = some (y.withNegated false, f) := by
    simp [Inner.logicOperand, opt_of_none h.notWord, h.skip, within]
  have value : r.next.logic c = some (y.withNegated false, f) := chain_of_none operand ends logic
  simp [Inner.value, value]

end Inner.Alone

end ViewWeave.Markup
