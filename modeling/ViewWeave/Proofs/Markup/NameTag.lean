import ViewWeave.Markup.NodeGrammar
import ViewWeave.Proofs.Markup.Identifier

/-!
# Tags that hold a name

An output tag with nothing but a name in it is read as a path. All rules that come before the rule
for paths refuse it: some at its start, as it begins with none of their words, and the others behind
the name, where the tag ends.
-/

namespace ViewWeave.Markup

open Rule

/-- The words by which something that is no path begins. -/
def leadWords : List String := ["true", "false", "True", "False", "not"]

/-- The text is a name, and begins with no word that is read before paths are. -/
structure PlainName (v : List Char) : Prop where
  start : v.head?.any isNameStart
  chars : v.all isNameChar
  lead : ∀ w ∈ leadWords, Text.dropStart? w.toList v = none

instance (v : List Char) : Decidable (PlainName v) :=
  decidable_of_iff (v.head?.any isNameStart ∧ v.all isNameChar ∧
      ∀ w ∈ leadWords, Text.dropStart? w.toList v = none)
    ⟨fun ⟨start, chars, lead⟩ => ⟨start, chars, lead⟩,
      fun ⟨start, chars, lead⟩ => ⟨start, chars, lead⟩⟩

def closing (rest : List Char) : List Char := ' ' :: '\x7d' :: '\x7d' :: rest

def braces (rest : List Char) : List Char := '\x7d' :: '\x7d' :: rest

theorem skip_closing (rest : List Char) (o : Option String) :
    skip ⟨closing rest, o⟩ = some ((), ⟨braces rest, o⟩) := rfl

theorem skip_braces (rest : List Char) (o : Option String) :
    skip ⟨braces rest, o⟩ = some ((), ⟨braces rest, o⟩) := rfl

theorem lit_brace {w : String} (hw : w.toList.head?.any (· != '\x7d')) (rest : List Char)
    (o : Option String) : lit w ⟨braces rest, o⟩ = none := lit_of_head hw

theorem border_closing (rest : List Char) : Border (closing rest) := by
  intro c hc
  cases hc
  decide

theorem ends_braces (rest : List Char) (o : Option String) : Ends ⟨braces rest, o⟩ :=
  ⟨rfl, rfl, rfl, rfl, rfl⟩

namespace PlainName

variable {v : List Char} (h : PlainName v) (rest : List Char) (o : Option String)
include h

theorem identifier : Identifier v := ⟨h.start, h.chars⟩

/-! ## Rules that refuse the name -/

theorem leadWord {w : String} (hw : w ∈ leadWords) : Rule.lit w ⟨v ++ closing rest, o⟩ = none := by
  have blank : ∀ w ∈ leadWords, ' ' ∉ w.toList := by decide
  have none := dropStart?_append (s := closing rest) (fun c hc => by cases hc; exact blank w hw)
    (h.lead w hw)
  simp [Rule.lit, none]

theorem truth : Markup.truth ⟨v ++ closing rest, o⟩ = none := by
  simp [Markup.truth, h.leadWord rest o (w := "true") (by decide),
    h.leadWord rest o (w := "false") (by decide), h.leadWord rest o (w := "True") (by decide),
    h.leadWord rest o (w := "False") (by decide)]

theorem notWord : wordOp "not" ⟨v ++ closing rest, o⟩ = none := by
  simp [wordOp, h.leadWord rest o (w := "not") (by decide)]

variable (r : Inner)

theorem call : r.call ⟨v ++ closing rest, o⟩ = none := by
  simp [Inner.call, h.identifier.name o (border_closing rest), skip_closing,
    lit_brace (w := "(") rfl]

theorem macroCall : r.macroCall ⟨v ++ closing rest, o⟩ = none := by
  simp [Inner.macroCall, h.identifier.name o (border_closing rest), skip_closing,
    lit_brace (w := "::") rfl]

theorem test : r.test ⟨v ++ closing rest, o⟩ = none ∧ r.testNot ⟨v ++ closing rest, o⟩ = none := by
  simp [Inner.test, Inner.testNot, h.identifier.path o (border_closing rest), skip_closing,
    lit_brace (w := "is") rfl]

theorem filteredText : r.filteredText ⟨v ++ closing rest, o⟩ = none := by
  have name := h.identifier
  simp [Inner.filteredText, Inner.concat, Inner.part, h.call rest o r, name.double, name.whole,
    name.quotedText, name.path o (border_closing rest), skip_closing, lit_brace (w := "~") rfl]

/-! ## Rules that read the name -/

theorem operand : r.operand ⟨v ++ closing rest, o⟩ =
    some (.path (String.ofList v), ⟨closing rest, o⟩) := by
  simp [Inner.operand, h.truth rest o, h.test rest o r, h.macroCall rest o r, h.call rest o r,
    h.identifier.path o (border_closing rest)]

theorem alone : r.Alone ⟨v ++ closing rest, o⟩ (.path (String.ofList v)) ⟨braces rest, o⟩ where
  ends := ends_braces rest o
  skip := h.identifier.skip _ o
  bracket := h.identifier.lit _ o rfl
  notWord := h.notWord rest o
  text := h.filteredText rest o r
  operand := ⟨_, h.operand rest o r, skip_closing rest o⟩

/-- Between the edges of an output tag, a name is read as a path. -/
theorem value : r.next.value ⟨v ++ closing rest, o⟩ =
    some (.plain (.path (String.ofList v)), ⟨braces rest, o⟩) := by
  have alone := h.alone rest o r
  have within : r.within ⟨v ++ closing rest, o⟩ = none := by
    rw [alone.within_of_not rfl]
    simp [lit_brace (w := "in") rfl]
  exact alone.value within

end PlainName

end ViewWeave.Markup
