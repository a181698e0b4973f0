import ViewWeave.Proofs.Yaml.Words
import ViewWeave.Yaml.Scanner

/-!
# Turns of the scanner

Each turn of the scanner hands out a token or scans for more of them. What several turns do together
is told by the tokens they hand out and the state they lead to.
-/

namespace ViewWeave.Yaml

namespace Scanner

/-! ## Turns -/

/-- In at most `b` turns the scanner hands out the tokens and goes on from another state. -/
def Leads (b : Nat) (s : Scanner) (ts : List Token) (s' : Scanner) : Prop :=
  ∃ n ≤ b, ∀ fuel, s.run (fuel + n + 1) = ts ++ s'.run (fuel + 1)

theorem Leads.trans {a b : Nat} {s s' r : Scanner} {ts us : List Token} (h : Leads a s ts s')
    (h' : Leads b s' us r) : Leads (a + b) s (ts ++ us) r := by
  obtain ⟨m, hm, first⟩ := h
  obtain ⟨n, hn, second⟩ := h'
  refine ⟨m + n, Nat.add_le_add hm hn, fun fuel => ?_⟩
  have run := first (fuel + n)
  rw [second] at run
  rw [List.append_assoc, ← run]
  congr 1
  omega

theorem Leads.mono {a b : Nat} {s s' : Scanner} {ts : List Token} (h : Leads a s ts s')
    (le : a ≤ b) :
    Leads b s ts s' := by
  obtain ⟨n, hn, run⟩ := h
  exact ⟨n, Nat.le_trans hn le, run⟩

section
variable {s s' : Scanner}

theorem leads_step (none : s.queue = []) (going : s.ended = false) (h : s.step = some s') :
    Leads 1 s [] s' := by
  refine ⟨1, Nat.le_refl 1, fun fuel => ?_⟩
  rw [run, none]
  simp [going, h]

theorem leads_same (none : s.queue = []) (none' : s'.queue = []) (going : s.ended = false)
    (going' : s'.ended = false) (h : s.step = s'.step) : Leads 0 s [] s' := by
  refine ⟨0, Nat.le_refl 0, fun fuel => ?_⟩
  rw [Nat.add_zero, run, run, none, none']
  simp [going, going', h]

/-- A token that may get a key before it waits. -/
theorem leads_wait {t : Token} {ts : List Token} (some : s.queue = t :: ts)
    (fresh : s.dropStale = .some s)
    (wait : s.mustWait) (going : s.ended = false) (h : s.step = .some s') : Leads 1 s [] s' := by
  refine ⟨1, Nat.le_refl 1, fun fuel => ?_⟩
  rw [run, some]
  simp [fresh, wait, going, h]

theorem dropStale_none (h : s.keys = [none]) : s.dropStale = some s := by
  unfold dropStale
  rw [h]
  show some { s with keys := [none] } = some s
  rw [← h]

theorem leads_handOut (h : s.keys = [none]) (ts : List Token) :
    Leads ts.length { s with queue := ts } ts
      { s with queue := [], handed := s.handed + ts.length } := by
  refine ⟨ts.length, Nat.le_refl _, fun fuel => ?_⟩
  induction ts generalizing s with
  | nil => rfl
  | cons t ts ih =>
    have wait : ({ s with queue := t :: ts } : Scanner).mustWait = false := by simp [mustWait, h]
    have tail := ih (s := { s with handed := s.handed + 1 }) h
    rw [List.length_cons, ← Nat.add_assoc fuel, run]
    simp only [dropStale_none (s := { s with queue := t :: ts }) h, wait, Bool.false_and,
      Bool.false_eq_true, ↓reduceIte, List.cons_append, List.cons.injEq, true_and]
    rw [tail, Nat.add_assoc, Nat.add_comm 1]

end

/-! ## Between tokens -/

/-- The scanner with an empty queue, before the mapping or in it. -/
def idle (opened keyAllowed : Bool) (handed : Nat) (rest : List Char) (p : Place) : Scanner where
  input := ⟨rest, p⟩
  queue := []
  handed := handed
  indent := if opened then 0 else -1
  outer := if opened then [-1] else []
  keys := [none]
  keyAllowed := keyAllowed
  ended := false

theorem indent_idle_le (opened keyAllowed : Bool) (handed : Nat) (rest : List Char) (p : Place)
    (column : Nat) :
    (idle opened keyAllowed handed rest p).indent ≤ column := by
  unfold idle
  cases opened with
  | false => show (-1 : Int) ≤ column; omega
  | true => show (0 : Int) ≤ column; omega

/-- A character at which the scanner goes on with a token. -/
def IsSolid (c : Char) : Prop := isGap c = false ∧ isBreak c = false ∧ c ≠ '#'

theorem isSolid_of_isWordChar {c : Char} (h : isWordChar c) : IsSolid c :=
  ⟨isGap_of_isWordChar h, isBreak_of_isWordChar h, ne_of_isWordChar h '#' (by decide)⟩

section
variable {s : Scanner} {p : Place} {c : Char} {t : List Char}

theorem skipBlank_nil (fuel : Nat) :
    skipBlank (fuel + 1) { s with input := ⟨[], p⟩ } = { s with input := ⟨[], p⟩ } := by
  rw [skipBlank]
  rfl

theorem skipBlank_solid (input : s.input = ⟨c :: t, p⟩) (hc : IsSolid c) (fuel : Nat) :
    skipBlank (fuel + 1) s = s := by
  obtain ⟨gap, line, hash⟩ := hc
  simp only [isGap, Bool.or_eq_false_iff] at gap
  rw [skipBlank, input, Input.skipWhile_stop (by simp [gap])]
  simp only [List.head?_cons, beq_iff_eq, Option.some.injEq, hash, ↓reduceIte, Option.any_some,
    line, Bool.false_eq_true]
  rw [← input]

theorem skipBlank_blank (fuel : Nat) :
    skipBlank (fuel + 1) { s with input := ⟨' ' :: t, p⟩ } =
      skipBlank (fuel + 1) { s with input := ⟨t, p.along 1⟩ } := by
  rw [skipBlank, skipBlank]
  dsimp only
  rw [Input.skipWhile_go rfl]
  rfl

theorem skipBlank_line (fuel : Nat) : skipBlank (fuel + 1) { s with input := ⟨'\n' :: t, p⟩ } =
    skipBlank fuel { s with input := ⟨t, p.below⟩, keyAllowed := s.keyAllowed || !s.inFlow } := by
  rw [skipBlank]
  dsimp only
  rw [Input.skipWhile_stop (by simp)]
  rfl

end

/-! ## Single steps -/

theorem step_congr {s s' : Scanner} (h : skipBlank (s.input.rest.length + 1) s =
    skipBlank (s'.input.rest.length + 1) s') : s.step = s'.step := by
  unfold step
  rw [h]

theorem closeBlocks_of_le {s : Scanner} {column : Int} (h : s.indent ≤ column) :
    s.closeBlocks column = s := by
  unfold closeBlocks
  split
  · rfl
  cases s.outer with
  | nil => rfl
  | cons i rest => rw [closeBlocksFrom, if_neg (by omega)]

theorem atMark_of_ne {c d : Char} (h : c ≠ d) (t : List Char) : atMark d (c :: t) = false := by
  unfold atMark
  split
  · simp_all
  · rfl

theorem startsPlain_word {c : Char} (hc : isWordChar c) (dash : c ≠ '-') (flow : Bool)
    (t : List Char) :
    startsPlain flow (c :: t) := by
  have apart : ∀ x ∈ "-?:,[]\x7b\x7d#&*!|>'\"%@`".toList, c ≠ x := by
    have all : "-?:,[]\x7b\x7d#&*!|>'\"%@`".toList ⊆ '-' :: marks := by decide
    intro x hx
    rcases List.mem_cons.mp (all hx) with rfl | hx
    · exact dash
    · exact ne_of_isWordChar hc x hx
  have none : "-?:,[]\x7b\x7d#&*!|>'\"%@`".toList.contains c = false := by
    rw [List.contains_eq_mem, decide_eq_false_iff_not]
    exact fun hm => apart c hm rfl
  unfold startsPlain
  dsimp only
  rw [atGap_of_isWordChar hc, none]
  rfl

section
variable {s : Scanner} {p : Place} {c : Char} {t : List Char} (input : s.input = ⟨c :: t, p⟩)
  (fresh : s.dropStale = some s) (deep : s.indent ≤ p.column)
include input fresh deep

theorem step_word (hc : isWordChar c) (dash : c ≠ '-') (dot : p.column = 0 → c ≠ '.') :
    s.step = s.scanPlainScalar := by
  have place : s.place = p := congrArg Input.place input
  have mark : (p.column == 0 && atMark '.' (c :: t)) = false := by
    by_cases start : p.column = 0
    · rw [atMark_of_ne (dot start), Bool.and_false]
    · simp [start]
  have apart : ∀ x ∈ marks, (c == x) = false := fun x hx => by simpa using ne_of_isWordChar hc x hx
  unfold step
  simp only [input, skipBlank_solid input (isSolid_of_isWordChar hc), fresh, place,
    closeBlocks_of_le deep, Option.bind_eq_bind, Option.bind_some, atEnd_of_isWordChar hc, mark,
    atMark_of_ne dash, startsPlain_word hc dash, Bool.and_false, Bool.false_eq_true, ↓reduceIte]
  simp [apart '%' (by decide), apart '[' (by decide), apart '\x7b' (by decide),
    apart ']' (by decide), apart '\x7d' (by decide), apart ',' (by decide), dash,
    apart '?' (by decide), apart ':' (by decide), apart '*' (by decide),
    apart '&' (by decide), apart '!' (by decide), apart '|' (by decide),
    apart '>' (by decide), apart '\'' (by decide), apart '"' (by decide)]

theorem step_colon (hc : c = ':') (gap : atGap t) : s.step = s.scanValue := by
  subst hc
  have place : s.place = p := congrArg Input.place input
  unfold step
  simp only [input, skipBlank_solid input ⟨rfl, rfl, by decide⟩, fresh, place,
    closeBlocks_of_le deep, Option.bind_eq_bind, Option.bind_some,
    atMark_of_ne (show ':' ≠ '-' by decide), atMark_of_ne (show ':' ≠ '.' by decide), gap,
    Bool.and_false, Bool.or_true, Bool.and_true, Bool.false_eq_true, ↓reduceIte]
  simp [atEnd]

end

theorem step_end (keyAllowed : Bool) (handed : Nat) (p : Place) : ∃ q : Place,
    (idle true keyAllowed handed [] p).step = some { idle false false handed [] q with
      queue := [⟨.blockEnd, q, q⟩, ⟨.streamEnd, q, q⟩], ended := true } := by
  refine ⟨if p.column == 0 then p else ⟨p.index, p.line + 1, 0⟩, ?_⟩
  have blank : skipBlank ((idle true keyAllowed handed [] p).input.rest.length + 1)
      (idle true keyAllowed handed [] p) =
      idle true keyAllowed handed [] p := skipBlank_nil (s := idle true keyAllowed handed [] p) 0
  unfold step
  rw [blank]
  rfl

end Scanner

end ViewWeave.Yaml
