import ViewWeave.Data.Reader
import ViewWeave.Data.Writer
import Mathlib.Data.Char
import Mathlib.Data.List.TakeWhile

/-!
# Reading back strings and numbers

What is written of a string or of a whole number is read back, wherever it stands and whatever
follows it; only a number asks that what follows does not go on with it.
-/

namespace ViewWeave.Data

open ViewWeave.Value

/-- The reading has given `a` and has come as far as `rest`. -/
def Leaves {α : Type} (r : Except ReadError (α × Cursor)) (a : α) (rest : List Char) : Prop :=
  ∃ line column, r = .ok (a, ⟨rest, line, column⟩)

theorem Leaves.bind {α β : Type} {r : Except ReadError (α × Cursor)} {a : α} {b : β}
    {rest rest' : List Char} {f : α × Cursor → Except ReadError (β × Cursor)} (h : Leaves r a rest)
    (hf : ∀ line column, Leaves (f (a, ⟨rest, line, column⟩)) b rest') :
    Leaves (r >>= f) b rest' := by
  obtain ⟨line, column, rfl⟩ := h
  exact hf line column

theorem Cursor.next_cons (x : Char) (cs : List Char) (line column : Nat) :
    ∃ line' column', (Cursor.mk (x :: cs) line column).next = ⟨cs, line', column'⟩ := by
  by_cases hx : x = '\n'
  · subst hx
    exact ⟨_, _, rfl⟩
  · refine ⟨line, column + x.utf8Size, ?_⟩
    unfold Cursor.next
    split
    · rename_i h; cases h
    · rename_i h
      exact absurd (List.cons.inj h).1 hx
    · rename_i h
      cases h
      rfl

/-! ## Strings -/

theorem hexValue?_hexDigit {n : Nat} (h : n < 16) : hexValue? (Text.hexDigit n) = some n := by
  revert n
  decide

theorem readHex_low {n : Nat} (h : n < 256) (rest : List Char) (line column : Nat) :
    readHex ⟨'0' :: '0' :: Text.hexDigit (n / 16) :: Text.hexDigit (n % 16) :: rest, line, column⟩ =
      .ok (n, ⟨rest, line, column + 4⟩) := by
  have long : ¬(String.ofList ('0' :: '0' :: Text.hexDigit (n / 16) ::
      Text.hexDigit (n % 16) :: rest)).utf8ByteSize < 4 := by
    have high := (Text.hexDigit (n / 16)).utf8Size_pos
    have low := (Text.hexDigit (n % 16)).utf8Size_pos
    have zero : ('0' : Char).utf8Size = 1 := rfl
    simp only [String.ofList_cons, String.utf8ByteSize_append, String.utf8ByteSize_singleton]
    omega
  have zero : hexValue? '0' = some 0 := by decide
  have high := hexValue?_hexDigit (n := n / 16) (by omega)
  have low := hexValue?_hexDigit (n := n % 16) (by omega)
  have whole : n / 16 * 16 + n % 16 = n := by omega
  unfold readHex
  rw [if_neg long]
  simp [zero, high, low, whole]

theorem readEscape_low {x : Char} (h : x.toNat < 32) (rest : List Char) (line column : Nat) :
    Leaves (readEscape ⟨'u' :: '0' :: '0' :: Text.hexDigit (x.toNat / 16) ::
      Text.hexDigit (x.toNat % 16) :: rest, line, column⟩) x rest := by
  have hex := readHex_low (n := x.toNat) (by omega) rest line (column + 1)
  have low : ¬(0xDC00 ≤ x.toNat ∧ x.toNat ≤ 0xDFFF) := by omega
  have plain : x.toNat < 0xD800 ∨ 0xDBFF < x.toNat := by omega
  refine ⟨line, column + 5, ?_⟩
  show readUnicode ⟨_, line, column + 1⟩ = _
  unfold readUnicode
  rw [hex]
  show (if _ then _ else _) = _
  rw [if_neg low, if_pos plain, Char.ofNat_toNat]
  rfl

theorem writtenChar_cases (x : Char) :
    (writtenChar x = [x] ∧ x ≠ '"' ∧ x ≠ '\\' ∧ ¬x.toNat < 32) ∨
      ∃ e, writtenChar x = '\\' :: e ∧
        ∀ rest line column, Leaves (readEscape ⟨e ++ rest, line, column⟩) x rest := by
  unfold writtenChar
  split
  · rename_i h; subst h
    exact .inr ⟨_, rfl, fun _ _ _ => ⟨_, _, rfl⟩⟩
  split
  · rename_i h; subst h
    exact .inr ⟨_, rfl, fun _ _ _ => ⟨_, _, rfl⟩⟩
  split
  · rename_i h; subst h
    exact .inr ⟨_, rfl, fun _ _ _ => ⟨_, _, rfl⟩⟩
  split
  · rename_i h; subst h
    exact .inr ⟨_, rfl, fun _ _ _ => ⟨_, _, rfl⟩⟩
  split
  · rename_i h; subst h
    exact .inr ⟨_, rfl, fun _ _ _ => ⟨_, _, rfl⟩⟩
  split
  · rename_i h
    rw [← Char.ofNat_toNat x, h]
    exact .inr ⟨_, rfl, fun _ _ _ => ⟨_, _, rfl⟩⟩
  split
  · rename_i h
    rw [← Char.ofNat_toNat x, h]
    exact .inr ⟨_, rfl, fun _ _ _ => ⟨_, _, rfl⟩⟩
  split
  · rename_i h
    exact .inr ⟨_, rfl, readEscape_low h⟩
  · rename_i quote back _ _ _ _ _ low
    exact .inl ⟨rfl, quote, back, low⟩

theorem readChars_written (rest : List Char) : ∀ (s : List Char) (fuel : Nat) (done : List Char)
    (line column : Nat), s.length < fuel →
      Leaves (readChars fuel done ⟨s.flatMap writtenChar ++ '"' :: rest, line, column⟩)
        (String.ofList (done.reverse ++ s)) rest
  | s, 0, _, _, _, h => absurd h (Nat.not_lt_zero _)
  | [], fuel + 1, done, line, column, _ => ⟨line, column + 1, by rw [List.append_nil]; rfl⟩
  | x :: s, fuel + 1, done, line, column, h => by
    have short : s.length < fuel := Nat.lt_of_succ_lt_succ h
    have ih := fun line' column' => readChars_written rest s fuel (x :: done) line' column' short
    rw [List.reverse_cons, List.append_assoc] at ih
    rw [List.flatMap_cons, List.append_assoc]
    -- a plain character moves the cursor in the usual way, an escape as far as it is long
    rcases writtenChar_cases x with ⟨plain, quote, back, low⟩ | ⟨e, escaped, read⟩
    · rw [plain]
      obtain ⟨line', column', next⟩ :=
        Cursor.next_cons x (s.flatMap writtenChar ++ '"' :: rest) line column
      show Leaves (readChars (fuel + 1) done
        ⟨x :: (s.flatMap writtenChar ++ '"' :: rest), line, column⟩) _ _
      unfold readChars
      split
      · rename_i h; cases h
      · rename_i h; exact absurd (List.cons.inj h).1 quote
      · rename_i h; exact absurd (List.cons.inj h).1 back
      · rename_i h
        cases h
        rw [if_neg low, next]
        exact ih line' column'
    · rw [escaped]
      exact (read _ _ _).bind ih

theorem length_le_flatMap_writtenChar (s : List Char) :
    s.length ≤ (s.flatMap writtenChar).length := by
  induction s with
  | nil => exact Nat.zero_le _
  | cons x s ih =>
    have one : 1 ≤ (writtenChar x).length := by
      rcases writtenChar_cases x with ⟨plain, -⟩ | ⟨e, escaped, -⟩
      · rw [plain]
        exact Nat.le_refl 1
      · rw [escaped]
        exact Nat.le_add_left 1 _
    rw [List.flatMap_cons, List.length_append, List.length_cons]
    omega

theorem readString_written (s : String) (rest : List Char) (line column : Nat) :
    Leaves (readString ⟨s.toList.flatMap writtenChar ++ '"' :: rest, line, column⟩) s rest := by
  have long := length_le_flatMap_writtenChar s.toList
  have h := readChars_written rest s.toList
    ((s.toList.flatMap writtenChar ++ '"' :: rest).length + 1) []
    line column (by rw [List.length_append]; omega)
  rwa [List.reverse_nil, List.nil_append, String.ofList_toList] at h

/-! ## Numbers -/

/-- What may follow a number: it neither goes on with its digits nor starts a fraction or an
exponent. -/
def Apart (rest : List Char) : Prop :=
  ∀ x ∈ rest.head?, x.isDigit = false ∧ x ≠ '.' ∧ x ≠ 'e' ∧ x ≠ 'E'

theorem appendDigits_eq : ∀ (ds : List Char) {n : Nat}, Nat.ofDigitChars 10 ds n ≤ maxDigits →
    appendDigits n ds = (Nat.ofDigitChars 10 ds n, [])
  | [], _, _ => rfl
  | d :: ds, n, h => by
    have step : Nat.ofDigitChars 10 (d :: ds) n =
        Nat.ofDigitChars 10 ds (n * 10 + digitValue d) := by
      rw [Nat.ofDigitChars_cons, Nat.mul_comm]
      rfl
    -- the number that is read so far never exceeds the whole number
    have fits : n * 10 + digitValue d ≤ maxDigits := by
      rw [step, Nat.ofDigitChars_eq_ofDigitChars_zero] at h
      have : n * 10 + digitValue d ≤ 10 ^ ds.length * (n * 10 + digitValue d) :=
        Nat.le_mul_of_pos_left _ (Nat.pow_pos (by decide))
      omega
    rw [step] at h ⊢
    rw [appendDigits, if_pos fits]
    exact appendDigits_eq ds h

theorem isDigit_natText {n : Nat} {x : Char} (h : x ∈ Decimal.natText n) : x.isDigit :=
  Nat.isDigit_of_mem_toDigits (by decide) (by decide) h

theorem exists_natText_eq (n : Nat) : ∃ d ds, Decimal.natText n = d :: ds ∧ d.isDigit := by
  obtain ⟨d, ds, hd⟩ := List.exists_cons_of_ne_nil
    (show Decimal.natText n ≠ [] from Nat.toDigits_ne_nil)
  exact ⟨d, ds, hd, isDigit_natText (hd ▸ List.mem_cons_self ..)⟩

theorem exists_natText_succ (n : Nat) : ∃ d ds, Decimal.natText (n + 1) = d :: ds ∧ d ≠ '0' := by
  induction n using Nat.strongRecOn with
  | ind n ih =>
    unfold Decimal.natText at *
    rw [Nat.toDigits_eq_if (by decide)]
    split
    · rename_i small
      have lone : ∀ m < 9, (m + 1).digitChar ≠ '0' := by decide
      exact ⟨_, [], rfl, lone n (by omega)⟩
    · obtain ⟨m, hm⟩ : ∃ m, (n + 1) / 10 = m + 1 := ⟨(n + 1) / 10 - 1, by omega⟩
      obtain ⟨d, ds, hd, nonzero⟩ := ih m (by omega)
      rw [hm, hd]
      exact ⟨d, _, rfl, nonzero⟩

theorem takeWhile_natText (n : Nat) {rest : List Char} (h : Apart rest) :
    (Decimal.natText n ++ rest).takeWhile Char.isDigit = Decimal.natText n := by
  rw [List.takeWhile_append_of_pos fun x => isDigit_natText]
  cases rest with
  | nil => simp
  | cons x rest => simp [(h x rfl).1]

theorem exists_digits (n : Nat) {rest : List Char} (h : Apart rest) (line column : Nat) :
    ∃ d ds, Decimal.natText n = d :: ds ∧
      (if d = '0' then (['0'], (Cursor.mk (d :: (ds ++ rest)) line column).next)
        else digitRun ⟨d :: (ds ++ rest), line, column⟩) =
        (d :: ds, ⟨rest, line, column + (d :: ds).length⟩) ∧
      ¬(d = '0' ∧ rest.head?.any Char.isDigit) := by
  cases n with
  | zero =>
    refine ⟨'0', [], rfl, rfl, fun ⟨_, digit⟩ => ?_⟩
    cases rest with
    | nil => cases digit
    | cons x rest => exact absurd digit (by simp [(h x rfl).1])
  | succ n =>
    obtain ⟨d, ds, hd, nonzero⟩ := exists_natText_succ n
    have digits := takeWhile_natText (n + 1) h
    rw [hd, List.cons_append] at digits
    refine ⟨d, ds, hd, ?_, fun ⟨zero, _⟩ => nonzero zero⟩
    rw [if_neg nonzero]
    unfold digitRun
    dsimp only
    rw [digits]
    simp

/-- The digits of a whole number of 64 bits are read back. -/
theorem readNumber_natText {n : Nat} {rest : List Char} (negative : Bool) (h : Apart rest)
    (small : n ≤ maxDigits) (signed : negative → n ≠ 0 ∧ n ≤ 9223372036854775808)
    (line column : Nat) :
    Leaves (readNumber negative ⟨Decimal.natText n ++ rest, line, column⟩)
      (.int (if negative then -n else n)) rest := by
  have value : appendDigits 0 (Decimal.natText n) = (n, []) := by
    have whole : Nat.ofDigitChars 10 (Decimal.natText n) 0 = n := Nat.ofDigitChars_ten_toDigits
    rw [appendDigits_eq _ (by rwa [whole]), whole]
  obtain ⟨d, ds, hd, run, unpadded⟩ := exists_digits n h line column
  have digit : d.isDigit := isDigit_natText (hd ▸ List.mem_cons_self ..)
  rw [hd] at value
  refine ⟨line, column + (d :: ds).length, ?_⟩
  unfold readNumber
  rw [hd, List.cons_append]
  dsimp only
  rw [run, digit, if_neg (by decide)]
  dsimp only
  rw [if_neg unpadded, value]
  dsimp only
  split
  · exact absurd rfl (h '.' rfl).2.1
  · exact absurd rfl (h 'e' rfl).2.2.1
  · exact absurd rfl (h 'E' rfl).2.2.2
  · cases negative with
    | false => rfl
    | true =>
      obtain ⟨nonzero, low⟩ := signed rfl
      have exact : ¬(n = 0 ∨ n > 9223372036854775808) := by omega
      simp only [List.isEmpty_nil, Bool.not_true, Bool.false_eq_true, if_false, if_neg exact,
        if_true]

end ViewWeave.Data
