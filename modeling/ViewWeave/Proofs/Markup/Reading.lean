import ViewWeave.Markup.Peg

/-!
# What rules read

How the ways of putting rules together act on a cursor, and when reading again and again stops.
-/

namespace ViewWeave.Markup.Rule

variable {α β : Type}

/-! ## Single rules -/

@[simp] theorem bind_apply (p : Rule α) (f : α → Rule β) (c : Cursor) :
    (p >>= f) c = match p c with
      | some (a, c) => f a c
      | none => none := rfl

@[simp] theorem pure_apply (a : α) (c : Cursor) : (pure a : Rule α) c = some (a, c) := rfl

@[simp] theorem orElse_apply (p q : Rule α) (c : Cursor) :
    (p <|> q) c = match p c with
      | some r => some r
      | none => q c := rfl

@[simp] theorem refuse_apply (c : Cursor) : (refuse : Rule α) c = none := rfl

theorem lit_of_ne {w : String} {s : List Char} {o : Option String} (h : ∀ r, s ≠ w.toList ++ r) :
    lit w ⟨s, o⟩ = none := by
  have none : Text.dropStart? w.toList s = none := by
    cases hd : Text.dropStart? w.toList s with
    | none => rfl
    | some r => exact absurd (Text.dropStart?_eq_some_iff.mp hd) (h r)
  simp [lit, none]

theorem lit_of_head {w : String} {c : Char} {s : List Char} {o : Option String}
    (hw : w.toList.head?.any (· != c)) : lit w ⟨c :: s, o⟩ = none := by
  refine lit_of_ne fun r hr => ?_
  cases hl : w.toList with
  | nil => simp [hl] at hw
  | cons d ds => simp_all

theorem opt_of_none {p : Rule α} {c : Cursor} (h : p c = none) : opt p c = some (none, c) := by
  simp [opt, orTry, done, h]

theorem manySpaced_of_none {p : Rule α} {c : Cursor} (h : p c = none) :
    manySpaced p c = some ([], c) := by
  simp [manySpaced, orTry, done, h]

theorem run_append {p : Char → Bool} {w s : List Char} {o : Option String} (hw : ∀ c ∈ w, p c)
    (hs : ∀ c ∈ s.head?, !p c) : run p ⟨w ++ s, o⟩ = some ((), ⟨s, o⟩) := by
  have stop : s.dropWhile p = s := by
    cases s with
    | nil => rfl
    | cons c s =>
      have hc := hs c rfl
      simp_all
  simp [run, List.dropWhile_append_of_pos hw, stop]

theorem matched_append {p : Rule Unit} {w s : List Char} {o : Option String}
    (h : p ⟨w ++ s, o⟩ = some ((), ⟨s, o⟩)) :
    matched p ⟨w ++ s, o⟩ = some (String.ofList w, ⟨s, o⟩) := by
  simp [matched, h]

/-! ## Repetition -/

/-- A rule reads these results one after the other, each from some of the text, and is then
refused. -/
inductive Repeats (p : Rule α) : Cursor → List α → Cursor → Prop
  | nil {c : Cursor} : p c = none → Repeats p c [] c
  | cons {c c' e : Cursor} {a : α} {as : List α} : p c = some (a, c') →
    c'.rest.length < c.rest.length → Repeats p c' as e → Repeats p c (a :: as) e

theorem Repeats.upTo {p : Rule α} {c e : Cursor} {as : List α} (h : p.Repeats c as e) :
    ∀ {n : Nat}, c.rest.length ≤ n → upTo p n c = some (as, e) := by
  induction h with
  | nil hp =>
    intro n _
    cases n with
    | zero => rfl
    | succ n => simp [Rule.upTo, hp]
  | cons hp hlt _ ih =>
    intro n hn
    cases n with
    | zero => omega
    | succ n => simp [Rule.upTo, hp, ih (n := n) (by omega)]

theorem Repeats.many {p : Rule α} {c e : Cursor} {as : List α} (h : p.Repeats c as e) :
    many p c = some (as, e) := h.upTo (Nat.le_refl _)

theorem many_of_none {p : Rule α} {c : Cursor} (h : p c = none) : many p c = some ([], c) :=
  (Repeats.nil h).many

end ViewWeave.Markup.Rule
