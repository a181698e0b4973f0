import ViewWeave.Demo.Helpers

/-!
# Sums of numbers

The demo sum is whole just if both sides are signed whole numbers. An unsigned number beyond those
makes it a double, even if the exact sum is a signed number again.
-/

namespace ViewWeave

namespace Number

/-- Template data can hold the number: its signed and unsigned whole numbers have 64 bits. -/
def IsStored : Number → Prop
  | .int i => minSigned ≤ i ∧ i ≤ maxUnsigned
  | .float _ => True

def IsSigned (n : Number) : Prop := ∃ i, n = .int i ∧ i ≤ maxSigned

theorem signed?_eq_some {i : Int} (h : IsStored (.int i)) (small : i ≤ maxSigned) :
    signed? (.int i) = some i :=
  if_pos ⟨h.1, small⟩

theorem signed?_eq_none {n : Number} (h : ¬n.IsSigned) : n.signed? = none := by
  cases n with
  | int i => exact if_neg fun inside => h ⟨i, rfl, inside.2⟩
  | float x => rfl

end Number

theorem Value.ofFloat_ne_ofInt (x : Float) (i : Int) : ofFloat x ≠ ofInt i := by
  unfold ofFloat ofInt
  split <;> simp

namespace Demo

open Number

theorem number_eq_ok {helper name : String} {args : Fields} {n : Number}
    (h : args.get? name = some (.num n)) :
    number helper name args = .ok n := by
  unfold number
  rw [h]

theorem add_eq_sum {args : Fields} {a b : Number} (ha : args.get? "a" = some (.num a))
    (hb : args.get? "b" = some (.num b)) : add args = .ok (sum a b) := by
  unfold add
  rw [number_eq_ok ha, number_eq_ok hb]
  rfl

/-! ## Whole sums and doubles -/

/-- The sum of signed numbers, which wraps around only if it is none. -/
theorem sum_signed {i j : Int} (hi : IsStored (.int i)) (hj : IsStored (.int j))
    (smallI : i ≤ maxSigned)
    (smallJ : j ≤ maxSigned) : sum (.int i) (.int j) = .ofInt (Int.bmod (i + j) Decimal.words) := by
  unfold sum
  rw [signed?_eq_some hi smallI, signed?_eq_some hj smallJ]

theorem bmod_of_signed {k : Int} (low : minSigned ≤ k) (high : k ≤ maxSigned) :
    Int.bmod k Decimal.words = k := by
  unfold minSigned at low
  unfold maxSigned at high
  exact Int.bmod_eq_of_le (by simp only [Decimal.words]; omega)
    (by simp only [Decimal.words]; omega)

theorem sum_double {a b : Number} (h : ¬(a.IsSigned ∧ b.IsSigned)) :
    sum a b = .ofFloat (a.toFloat + b.toFloat) := by
  unfold sum
  by_cases ha : a.IsSigned
  · rw [signed?_eq_none fun hb => h ⟨ha, hb⟩]
    cases a.signed? <;> rfl
  · rw [signed?_eq_none ha]

theorem exists_sum_whole_iff {a b : Number} (ha : a.IsStored) (hb : b.IsStored) :
    (∃ k, sum a b = .ofInt k) ↔ a.IsSigned ∧ b.IsSigned := by
  constructor
  · rintro ⟨k, whole⟩
    refine Classical.byContradiction fun apart => ?_
    exact Value.ofFloat_ne_ofInt _ k ((sum_double apart).symm.trans whole)
  · rintro ⟨⟨i, rfl, smallI⟩, j, rfl, smallJ⟩
    exact ⟨_, sum_signed ha hb smallI smallJ⟩

theorem double_or_beyond {n : Number} (h : ¬n.IsSigned) :
    (∃ x, n = .float x) ∨ ∃ i, n = .int i ∧ maxSigned < i := by
  cases n with
  | int i => exact .inr ⟨i, rfl, Int.not_le.mp fun small => h ⟨i, rfl, small⟩⟩
  | float x => exact .inl ⟨x, rfl⟩

/-- **Sums.** The sum of two numbers is whole just if both are signed; it is exact then, if it is a
signed number itself. Any other sum is that of the nearest doubles, so a double comes out only where
one side is a double or an unsigned number beyond the signed ones. -/
theorem add_whole_iff {args : Fields} {a b : Number} (ha : args.get? "a" = some (.num a))
    (hb : args.get? "b" = some (.num b)) (storedA : a.IsStored) (storedB : b.IsStored) :
    (∀ i j, a = .int i → b = .int j → minSigned ≤ i + j → i + j ≤ maxSigned →
      (add args = .ok (.ofInt (i + j)) ↔ i ≤ maxSigned ∧ j ≤ maxSigned)) ∧
    ((∃ k, add args = .ok (.ofInt k)) ↔ a.IsSigned ∧ b.IsSigned) ∧
    (¬(a.IsSigned ∧ b.IsSigned) → add args = .ok (.ofFloat (a.toFloat + b.toFloat))) ∧
    ∀ x, add args = .ok (.num (.float x)) →
      ∃ n ∈ [a, b], (∃ y, n = .float y) ∨ ∃ i, n = .int i ∧ maxSigned < i := by
  rw [add_eq_sum ha hb]
  simp only [Except.ok.injEq]
  refine ⟨?exact, exists_sum_whole_iff storedA storedB, sum_double, ?double⟩
  case exact =>
    rintro i j rfl rfl low high
    constructor
    · intro whole
      obtain ⟨⟨i', same, smallI⟩, j', same', smallJ⟩ :=
        (exists_sum_whole_iff storedA storedB).mp ⟨_, whole⟩
      cases same
      cases same'
      exact ⟨smallI, smallJ⟩
    · rintro ⟨smallI, smallJ⟩
      rw [sum_signed storedA storedB smallI smallJ, bmod_of_signed low high]
  case double =>
    intro x double
    by_cases hs : a.IsSigned
    · refine ⟨b, by simp, double_or_beyond fun hs' => ?_⟩
      obtain ⟨k, whole⟩ := (exists_sum_whole_iff storedA storedB).mpr ⟨hs, hs'⟩
      rw [whole] at double
      cases double
    · exact ⟨a, by simp, double_or_beyond hs⟩

def terms (a b : Int) : Fields := [("a", .ofInt a), ("b", .ofInt b)]

theorem add_whole_iff_ends : (terms maxSigned minSigned).get? "a" = some (.num (.int maxSigned)) ∧
    (terms maxSigned minSigned).get? "b" = some (.num (.int minSigned)) ∧
    IsStored (.int maxSigned) ∧ IsStored (.int minSigned) ∧
    add (terms maxSigned minSigned) = .ok (.ofInt (-1)) := by
  have first : (terms maxSigned minSigned).get? "a" = some (.num (.int maxSigned)) := by rfl
  have second : (terms maxSigned minSigned).get? "b" = some (.num (.int minSigned)) := by rfl
  have storedA : IsStored (.int maxSigned) := ⟨by decide, by decide⟩
  have storedB : IsStored (.int minSigned) := ⟨by decide, by decide⟩
  refine ⟨first, second, storedA, storedB, ?_⟩
  exact ((add_whole_iff first second storedA storedB).1 _ _ rfl rfl (by decide) (by decide)).mpr
    ⟨by decide, by decide⟩

/-- The number after the last signed one less one: the exact sum is signed, but what comes out is
not whole. -/
theorem add_loses_whole : IsStored (.int (maxSigned + 1)) ∧ IsStored (.int (-1)) ∧
    maxSigned + 1 + -1 = maxSigned ∧ ∀ k, add (terms (maxSigned + 1) (-1)) ≠ .ok (.ofInt k) := by
  have storedA : IsStored (.int (maxSigned + 1)) := ⟨by decide, by decide⟩
  have storedB : IsStored (.int (-1)) := ⟨by decide, by decide⟩
  refine ⟨storedA, storedB, by decide, fun k whole => ?_⟩
  rw [add_eq_sum rfl rfl] at whole
  obtain ⟨⟨i, same, small⟩, -⟩ := (exists_sum_whole_iff storedA storedB).mp ⟨k, Except.ok.inj whole⟩
  cases same
  exact absurd small (by decide)

end Demo

end ViewWeave
