/-!
# Affixes of character lists

Cutting a given start or end off a list, trimming one character at the ends, and splitting at a
separator. Paths, names and markers are taken apart with these and nothing else.
-/

namespace ViewWeave.Text

/-! ## Given starts and ends -/

def dropStart? : List Char → List Char → Option (List Char)
  | [], s => some s
  | _ :: _, [] => none
  | p :: ps, c :: cs => if p = c then dropStart? ps cs else none

def dropEnd? (m s : List Char) : Option (List Char) :=
  (dropStart? m.reverse s.reverse).map List.reverse

def breakOn? (p : List Char) : List Char → Option (List Char × List Char)
  | [] => if p.isEmpty then some ([], []) else none
  | c :: cs =>
    match dropStart? p (c :: cs) with
    | some rest => some ([], rest)
    | none => (breakOn? p cs).map fun (a, b) => (c :: a, b)

def occursIn (p s : List Char) : Bool := (breakOn? p s).isSome

theorem dropStart?_eq_some_iff {p s r : List Char} : dropStart? p s = some r ↔ s = p ++ r := by
  induction p generalizing s with
  | nil => simp [dropStart?, eq_comm]
  | cons a p ih =>
    cases s with
    | nil => simp [dropStart?]
    | cons c s =>
      by_cases h : a = c
      · subst h; simp [dropStart?, ih]
      · simp [dropStart?, h, Ne.symm h]

theorem dropEnd?_eq_some_iff {m s r : List Char} : dropEnd? m s = some r ↔ s = r ++ m := by
  simp only [dropEnd?, Option.map_eq_some_iff, dropStart?_eq_some_iff]
  constructor
  · rintro ⟨a, h, rfl⟩
    simpa using congrArg List.reverse h
  · rintro rfl
    exact ⟨r.reverse, by simp, by simp⟩

/-! ## Trimming one character -/

def trimEndOf (c : Char) (s : List Char) : List Char :=
  (s.reverse.dropWhile (· == c)).reverse

def trimOf (c : Char) (s : List Char) : List Char :=
  trimEndOf c (s.dropWhile (· == c))

/-! ## Separators -/

/-- The parts of `s` before and after its first `c`. -/
def splitOnce? (c : Char) : List Char → Option (List Char × List Char)
  | [] => none
  | d :: ds => if d = c then some ([], ds) else (splitOnce? c ds).map fun (a, b) => (d :: a, b)

/-- The parts of `s` between its `c`s; there is always at least one. -/
def splitAt (c : Char) : List Char → List (List Char)
  | [] => [[]]
  | d :: ds =>
    if d = c then [] :: splitAt c ds
    else
      match splitAt c ds with
      | [] => [[d]]
      | w :: ws => (d :: w) :: ws

/-- The part of `s` after its last `c`, or all of `s`. -/
def afterLast (c : Char) (s : List Char) : List Char :=
  (s.reverse.takeWhile (· != c)).reverse

theorem splitOnce?_eq_some_iff {c : Char} {s a b : List Char} :
    splitOnce? c s = some (a, b) ↔ s = a ++ c :: b ∧ c ∉ a := by
  induction s generalizing a b with
  | nil => simp [splitOnce?]
  | cons d s ih =>
    by_cases h : d = c
    · subst h
      simp only [splitOnce?, ↓reduceIte, Option.some.injEq, Prod.mk.injEq]
      constructor
      · rintro ⟨rfl, rfl⟩; simp
      · rintro ⟨h, hn⟩
        cases a with
        | nil => simpa using h
        | cons x a => simp_all
    · simp only [splitOnce?, h, ↓reduceIte, Option.map_eq_some_iff]
      constructor
      · rintro ⟨⟨x, y⟩, hx, he⟩
        obtain ⟨rfl, hn⟩ := ih.1 hx
        simp only [Prod.mk.injEq] at he
        obtain ⟨rfl, rfl⟩ := he
        exact ⟨rfl, by simp [hn, Ne.symm h]⟩
      · rintro ⟨he, hn⟩
        cases a with
        | nil => simp_all
        | cons x a =>
          simp only [List.cons_append, List.cons.injEq] at he
          obtain ⟨rfl, rfl⟩ := he
          exact ⟨(a, b), ih.2 ⟨rfl, fun hm => hn (List.mem_cons_of_mem _ hm)⟩, rfl⟩

theorem splitOnce?_eq_none_iff {c : Char} {s : List Char} : splitOnce? c s = none ↔ c ∉ s := by
  induction s with
  | nil => simp [splitOnce?]
  | cons d s ih =>
    by_cases h : d = c
    · simp [splitOnce?, h]
    · simp [splitOnce?, h, Ne.symm h, ih]

end ViewWeave.Text
