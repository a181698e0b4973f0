import ViewWeave.Yaml.Scalar
import Mathlib.Data.List.TakeWhile

/-!
# Words of layout files

Letters, digits and the marks of paths mean nothing but themselves in a layout file. A word of them
is scanned whole: up to the colon behind it, the end of its line or the end of the text.
-/

namespace ViewWeave.Yaml

/-! ## Characters -/

/-- The characters beyond the basic ones that a layout file may hold and that break no line; the
letters and digits of all scripts are among them. -/
def isFurtherChar (c : Char) : Bool := 160 ≤ c.toNat && isAllowed c && !isBreak c && c != '\uFEFF'

def isKeyChar (c : Char) : Bool := c.isLower || c == '_' || isFurtherChar c

def isWordChar (c : Char) : Bool := c.isAlphanum || "_/.-".toList.contains c || isFurtherChar c

/-- The characters that mean something to the scanner, but for the dash and the dot, which do so
only at the start of a word. -/
def marks : List Char := "\x00\t\n\r\u0085\u2028\u2029 :#?,[]\x7b\x7d&*!|>'\"%@`".toList

section
variable {c : Char}

theorem isAlphanum_eq (c : Char) : c.isAlphanum = (c.isUpper || c.isLower || c.isDigit) := rfl

theorem isWordChar_of_isKeyChar (h : isKeyChar c) : isWordChar c := by
  unfold isKeyChar at h
  unfold isWordChar
  rw [Bool.or_assoc, Bool.or_eq_true, Bool.or_eq_true, beq_iff_eq] at h
  rcases h with lower | rfl | further
  · simp [isAlphanum_eq, lower]
  · rfl
  · simp [further]

theorem ne_of_isWordChar (h : isWordChar c) : ∀ x ∈ marks, c ≠ x := by
  have none : marks.all fun x => !isWordChar x := by decide
  rintro x hx rfl
  have apart := List.all_eq_true.mp none _ hx
  rw [h] at apart
  cases apart

theorem ne_of_isKeyChar (h : isKeyChar c) : c ≠ '-' ∧ c ≠ '.' := by
  constructor
  · rintro rfl
    exact absurd h (by decide)
  · rintro rfl
    exact absurd h (by decide)

theorem isAllowed_of_isWordChar (h : isWordChar c) : isAllowed c := by
  unfold isWordChar at h
  rw [Bool.or_assoc, Bool.or_eq_true, Bool.or_eq_true] at h
  rcases h with letter | mark | further
  · have range : 32 ≤ c.toNat ∧ c.toNat ≤ 126 := by
      change ((decide (65 ≤ c.val ∧ c.val ≤ 90) || (97 ≤ c.val && c.val ≤ 122)) ||
        (48 ≤ c.val && c.val ≤ 57)) = true
        at letter
      simp only [Bool.or_eq_true, Bool.and_eq_true, decide_eq_true_eq, UInt32.le_iff_toNat_le]
        at letter
      change ((65 ≤ c.toNat ∧ c.toNat ≤ 90) ∨ (97 ≤ c.toNat ∧ c.toNat ≤ 122)) ∨
        (48 ≤ c.toNat ∧ c.toNat ≤ 57) at letter
      omega
    simp [isAllowed, range]
  · have all : "_/.-".toList.all isAllowed := by decide
    exact List.all_eq_true.mp all c (by simpa using mark)
  · simp only [isFurtherChar, Bool.and_eq_true] at further
    exact further.1.1.2

theorem isGap_of_isWordChar (h : isWordChar c) : isGap c = false := by
  have ne := ne_of_isWordChar h
  simp [isGap, ne ' ' (by decide), ne '\t' (by decide)]

theorem isBreak_of_isWordChar (h : isWordChar c) : isBreak c = false := by
  have ne := ne_of_isWordChar h
  simp [isBreak, ne '\n' (by decide), ne '\r' (by decide), ne '\u0085' (by decide),
    ne '\u2028' (by decide), ne '\u2029' (by decide)]

theorem atEnd_of_isWordChar (h : isWordChar c) (t : List Char) : atEnd (c :: t) = false := by
  simp [atEnd, ne_of_isWordChar h '\x00' (by decide)]

theorem atGap_of_isWordChar (h : isWordChar c) (t : List Char) : atGap (c :: t) = false := by
  simp [atGap, atEnd_of_isWordChar h, isGap_of_isWordChar h, isBreak_of_isWordChar h]

end

/-! ## Places -/

def Place.along (n : Nat) (p : Place) : Place := ⟨p.index + n, p.line, p.column + n⟩

def Place.below (p : Place) : Place := ⟨p.index + 1, p.line + 1, 0⟩

@[simp] theorem Place.along_along (m n : Nat) (p : Place) :
    (p.along m).along n = p.along (m + n) := by
  simp [along, Nat.add_assoc]

@[simp] theorem Place.column_along (n : Nat) (p : Place) : (p.along n).column = p.column + n := rfl

section
variable {p : Place} {f : Char → Bool} {c : Char}

theorem Input.skipWhile_stop (h : f c = false) (t : List Char) :
    (Input.mk (c :: t) p).skipWhile f = ([], ⟨c :: t, p⟩) := by
  simp [Input.skipWhile, Input.skipMany, h]

theorem Input.skipWhile_go (h : f c) (t : List Char) : (Input.mk (c :: t) p).skipWhile f =
    (c :: ((Input.mk t (p.along 1)).skipWhile f).1, ((Input.mk t (p.along 1)).skipWhile f).2) := by
  simp [Input.skipWhile, Input.skipMany, h, Place.along, Nat.add_assoc, Nat.add_comm 1]

end

/-! ## Words -/

structure IsWord (w : List Char) : Prop where
  nonempty : w ≠ []
  chars : ∀ c ∈ w, isWordChar c

section
variable {w : List Char} (h : IsWord w)
include h

theorem IsWord.exists_cons : ∃ c cs, w = c :: cs ∧ isWordChar c := by
  obtain ⟨c, cs, rfl⟩ := List.exists_cons_of_ne_nil h.nonempty
  exact ⟨c, cs, rfl, h.chars c (List.mem_cons_self ..)⟩

theorem plainWord_append {t : List Char} (stop : plainWord false t = some []) :
    plainWord false (w ++ t) = some w := by
  have all := h.chars
  clear h
  induction w with
  | nil => exact stop
  | cons c w ih =>
    have hc := all c (List.mem_cons_self ..)
    have colon := ne_of_isWordChar hc ':' (by decide)
    have tail := ih fun d hd => all d (List.mem_cons_of_mem c hd)
    rw [List.cons_append, plainWord, atGap_of_isWordChar hc, if_neg (by simp)]
    simp [badColon, endsPlain, colon, atGap_of_isWordChar hc, tail]

theorem plainFrom_word {t : List Char} (stop : plainWord false t = some []) (indent n : Nat)
    (start : Place) {p : Place} (mark : atDocumentMark ⟨w ++ t, p⟩ = false) :
    plainFrom false indent (n + 1) [] start Gap.none ⟨w ++ t, p⟩ =
      if !(t.head?.any fun c => isGap c || isBreak c) then
        some ⟨w, p.along w.length, ⟨t, p.along w.length⟩, false⟩
      else
        (skipGap (fun column => indent ≤ column) (t.length + 1) Gap.none
          ⟨t, p.along w.length⟩).bind fun (g, u) =>
          if u.place.column < indent then some ⟨w, p.along w.length, u, g.broken⟩
          else plainFrom false indent n w (p.along w.length) g u := by
  have word := plainWord_append h stop
  have rest : (Input.mk (w ++ t) p).skipMany w.length = ⟨t, p.along w.length⟩ := by
    simp [Input.skipMany, Place.along]
  have hash : (w ++ t).head? ≠ some '#' := by
    obtain ⟨c, cs, rfl, hc⟩ := h.exists_cons
    simpa using ne_of_isWordChar hc '#' (by decide)
  have some : w.isEmpty = false := by simpa using h.nonempty
  rw [plainFrom, mark]
  simp only [Bool.false_or, beq_iff_eq, hash, ↓reduceIte, word, rest, some, Gap.text, Gap.none,
    Option.bind_eq_bind, Option.bind_some, Bool.not_false, Bool.true_and, decide_eq_true_eq,
    List.nil_append, Bool.false_eq_true]
  rfl

/-- A word is scanned as the whole scalar up to where its line goes on with something else. -/
theorem scanPlain_tight {t : List Char} (stop : plainWord false t = some [])
    (tight : (t.head?.any fun c => isGap c || isBreak c) = false) (indent : Nat) {p : Place}
    (mark : atDocumentMark ⟨w ++ t, p⟩ = false) :
    scanPlain false indent ⟨w ++ t, p⟩ =
      some ⟨w, p.along w.length, ⟨t, p.along w.length⟩, false⟩ := by
  unfold scanPlain
  rw [plainFrom_word h stop _ _ _ mark, tight]
  rfl

theorem scanPlain_line {d : Char} (hd : isWordChar d) (t : List Char) {indent : Nat}
    (deep : 0 < indent) {p : Place} (mark : atDocumentMark ⟨w ++ '\n' :: d :: t, p⟩ = false) :
    scanPlain false indent ⟨w ++ '\n' :: d :: t, p⟩ =
      some ⟨w, p.along w.length, ⟨d :: t, (p.along w.length).below⟩, true⟩ := by
  have gap (q : Place) :
      skipGap (fun column => indent ≤ column) (('\n' :: d :: t).length + 1) Gap.none
        ⟨'\n' :: d :: t, q⟩ = some (⟨[], ['\n'], [], true⟩, ⟨d :: t, q.below⟩) := by
    show skipGap _ (t.length + 1 + 1) ⟨[], ['\n'], [], true⟩ ⟨d :: t, q.below⟩ = _
    rw [skipGap]
    simp [isGap_of_isWordChar hd, isBreak_of_isWordChar hd]
  unfold scanPlain
  rw [plainFrom_word h rfl _ _ _ mark, gap]
  show (if 0 < indent then _ else _) = _
  rw [if_pos deep]

end

end ViewWeave.Yaml
