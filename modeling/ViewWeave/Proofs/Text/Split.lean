import ViewWeave.Text.Affix
import Mathlib.Data.List.Basic

/-!
# Splitting and joining

Splitting a text at a separator undoes joining parts with it, as long as no part has the separator
in it; joining the parts of a split text always gives the text back.
-/

namespace ViewWeave.Text

variable {c : Char}

/-! ## Splitting -/

theorem splitAt_cons (d : Char) (s : List Char) : splitAt c (d :: s) =
    if d = c then [] :: splitAt c s
    else
      match splitAt c s with
      | [] => [[d]]
      | w :: ws => (d :: w) :: ws := rfl

theorem splitAt_of_not_mem {w : List Char} (h : c ∉ w) : splitAt c w = [w] := by
  induction w with
  | nil => rfl
  | cons d w ih =>
    rw [List.mem_cons, not_or] at h
    rw [splitAt_cons, if_neg (Ne.symm h.1), ih h.2]

theorem splitAt_append {w : List Char} (h : c ∉ w) (s : List Char) :
    splitAt c (w ++ c :: s) = w :: splitAt c s := by
  induction w with
  | nil => exact if_pos rfl
  | cons d w ih =>
    rw [List.mem_cons, not_or] at h
    rw [List.cons_append, splitAt_cons, if_neg (Ne.symm h.1), ih h.2]

theorem splitAt_ne_nil (s : List Char) : splitAt c s ≠ [] := by
  cases s with
  | nil => exact List.cons_ne_nil _ _
  | cons d s =>
    rw [splitAt_cons]
    split
    · simp
    · split <;> simp

theorem not_mem_of_mem_splitAt {w : List Char} : ∀ {s : List Char}, w ∈ splitAt c s → c ∉ w
  | [], h => by
    rw [List.mem_singleton.mp h]
    exact List.not_mem_nil
  | d :: s, h => by
    rw [splitAt_cons] at h
    split at h
    · rcases List.mem_cons.mp h with rfl | h
      · exact List.not_mem_nil
      · exact not_mem_of_mem_splitAt h
    rename_i hd
    have hs := fun {v} => not_mem_of_mem_splitAt (w := v) (s := s)
    split at h
    · rename_i hnil
      exact absurd hnil (splitAt_ne_nil s)
    · rename_i v vs hcons
      rw [hcons] at hs
      rcases List.mem_cons.mp h with rfl | h
      · simpa [Ne.symm hd] using hs (List.mem_cons_self ..)
      · exact hs (List.mem_cons_of_mem _ h)

theorem afterLast_append {b : List Char} (h : c ∉ b) (a : List Char) :
    afterLast c (a ++ c :: b) = b := by
  have keep : ∀ d ∈ b.reverse, (d != c) = true := by
    intro d hd
    rw [bne_iff_ne]
    rintro rfl
    exact h (List.mem_reverse.mp hd)
  unfold afterLast
  rw [List.reverse_append, List.reverse_cons, List.append_assoc, List.takeWhile_append_of_pos keep]
  simp

theorem afterLast_eq_iff {s b : List Char} (h : c ∈ s) :
    afterLast c s = b ↔ c ∉ b ∧ ∃ a, s = a ++ c :: b := by
  constructor
  · rintro rfl
    obtain ⟨r, l, hr, fresh⟩ := List.eq_append_cons_of_mem (List.mem_reverse.mpr h)
    have hs : s = l.reverse ++ c :: r.reverse := by
      rw [← List.reverse_reverse s, hr]
      simp
    have rest : c ∉ r.reverse := fun hm => fresh (List.mem_reverse.mp hm)
    rw [hs, afterLast_append rest]
    exact ⟨rest, l.reverse, rfl⟩
  · rintro ⟨rest, a, rfl⟩
    exact afterLast_append rest a

/-! ## Joining -/

theorem intercalate_cons {w : List Char} {ws : List (List Char)} (h : ws ≠ []) :
    List.intercalate [c] (w :: ws) = w ++ c :: List.intercalate [c] ws := by
  cases ws with
  | nil => exact absurd rfl h
  | cons v ws => simp [List.intercalate, List.intersperse]

theorem splitAt_intercalate {ws : List (List Char)} (h : ∀ w ∈ ws, c ∉ w) (hne : ws ≠ []) :
    splitAt c (List.intercalate [c] ws) = ws := by
  induction ws with
  | nil => exact absurd rfl hne
  | cons w ws ih =>
    have hw := h w (by simp)
    cases ws with
    | nil => simpa [List.intercalate] using splitAt_of_not_mem hw
    | cons v ws =>
      rw [intercalate_cons (by simp), splitAt_append hw,
        ih (fun u hu => h u (by simp [hu])) (by simp)]

theorem intercalate_splitAt : ∀ s : List Char, List.intercalate [c] (splitAt c s) = s
  | [] => rfl
  | d :: s => by
    have ih := intercalate_splitAt s
    rw [splitAt_cons]
    split
    · rename_i hd
      rw [intercalate_cons (splitAt_ne_nil s), ih, hd]
      rfl
    split
    · rename_i hnil
      exact absurd hnil (splitAt_ne_nil s)
    · rename_i w ws hcons
      rw [hcons] at ih
      cases ws with
      | nil => simpa [List.intercalate] using ih
      | cons v ws =>
        rw [intercalate_cons (by simp)] at ih ⊢
        rw [← ih]
        rfl

theorem intercalate_append {vs ws : List (List Char)} (hv : vs ≠ []) (hw : ws ≠ []) :
    List.intercalate [c] (vs ++ ws) = List.intercalate [c] vs ++ c :: List.intercalate [c] ws := by
  induction vs with
  | nil => exact absurd rfl hv
  | cons v vs ih =>
    cases vs with
    | nil => simpa [List.intercalate] using intercalate_cons hw
    | cons u vs =>
      have tail := ih (by simp)
      have first : u :: vs ≠ [] := by simp
      rw [List.cons_append, intercalate_cons (by simp), tail, intercalate_cons first]
      rw [List.append_assoc, List.cons_append]

theorem splitAt_intercalate_append {ws : List (List Char)} (h : ∀ w ∈ ws, c ∉ w) (hne : ws ≠ [])
    (s : List Char) :
    splitAt c (List.intercalate [c] ws ++ c :: s) = ws ++ splitAt c s := by
  have parts : ∀ w ∈ ws ++ splitAt c s, c ∉ w := by
    intro w hw
    rcases List.mem_append.mp hw with hw | hw
    · exact h w hw
    · exact not_mem_of_mem_splitAt hw
  have joined := splitAt_intercalate parts (by simp [hne])
  rwa [intercalate_append hne (splitAt_ne_nil s), intercalate_splitAt] at joined

theorem splitAt_append_cons (s t : List Char) :
    splitAt c (s ++ c :: t) = splitAt c s ++ splitAt c t := by
  have parts : ∀ w ∈ splitAt c s, c ∉ w := fun w hw => not_mem_of_mem_splitAt hw
  have joined := splitAt_intercalate_append parts (splitAt_ne_nil s) t
  rwa [intercalate_splitAt] at joined

theorem length_splitAt_le : ∀ s : List Char, (splitAt c s).length ≤ s.length + 1
  | [] => Nat.le_refl _
  | d :: s => by
    have rest := length_splitAt_le s
    rw [splitAt_cons, List.length_cons]
    split
    · rw [List.length_cons]
      omega
    split
    · simp
    · rename_i w ws hcons
      rw [hcons, List.length_cons] at rest
      rw [List.length_cons]
      omega

/-- A text is split first at its first separator, if it has one. -/
theorem splitAt_eq_splitOnce? (s : List Char) : splitAt c s =
    match splitOnce? c s with
    | some (w, rest) => w :: splitAt c rest
    | none => [s] := by
  cases h : splitOnce? c s with
  | none => exact splitAt_of_not_mem (splitOnce?_eq_none_iff.mp h)
  | some parts =>
    obtain ⟨rfl, hw⟩ := splitOnce?_eq_some_iff.mp h
    exact splitAt_append hw _

theorem length_le_intercalate : ∀ {ws : List (List Char)}, (∀ w ∈ ws, w ≠ []) →
    ws.length ≤ (List.intercalate [c] ws).length
  | [], _ => Nat.le_refl _
  | [w], h => by
    have first := List.length_pos_iff.mpr (h w (by simp))
    simp [List.intercalate]
    omega
  | w :: v :: ws, h => by
    have rest : (v :: ws).length ≤ (List.intercalate [c] (v :: ws)).length :=
      length_le_intercalate fun u hu => h u (List.mem_cons_of_mem w hu)
    have joined := congrArg List.length (intercalate_cons (c := c) (w := w) (List.cons_ne_nil v ws))
    simp only [List.length_append, List.length_cons] at joined rest ⊢
    omega

/-- A text is taken apart twice at a separator: in one place, or the one time further on than the
other. -/
theorem append_cons_eq_iff {l p m q : List Char} :
    l ++ c :: p = m ++ c :: q ↔
      (l = m ∧ p = q) ∨ (∃ r, m = l ++ c :: r ∧ p = r ++ c :: q) ∨
        ∃ r, l = m ++ c :: r ∧ q = r ++ c :: p := by
  have further {a b s t u : List Char} (longer : b = a ++ s) (rest : c :: t = s ++ c :: u) :
      (a = b ∧ t = u) ∨ ∃ r, b = a ++ c :: r ∧ t = r ++ c :: u := by
    cases s with
    | nil => exact .inl ⟨by simpa using longer.symm, by simpa using rest⟩
    | cons d s =>
      cases rest
      exact .inr ⟨s, longer, rfl⟩
  constructor
  · intro h
    rcases List.append_eq_append_iff.mp h with ⟨s, longer, rest⟩ | ⟨s, longer, rest⟩
    · exact (further longer rest).imp_right .inl
    · exact (further longer rest).imp (fun same => ⟨same.1.symm, same.2.symm⟩) .inr
  · rintro (⟨rfl, rfl⟩ | ⟨r, rfl, rfl⟩ | ⟨r, rfl, rfl⟩)
    · rfl
    · simp
    · simp

/-! ## Trimming -/

theorem trimEndOf_of_last {s : List Char} (h : s.getLast? ≠ some c) : trimEndOf c s = s := by
  unfold trimEndOf
  rw [← List.head?_reverse] at h
  cases hs : s.reverse with
  | nil => simpa using hs.symm
  | cons d r =>
    rw [hs] at h
    have hd : d ≠ c := by simpa using h
    rw [List.dropWhile_cons_of_neg (by simpa using hd), ← hs, List.reverse_reverse]

theorem trimOf_of_ends {s : List Char} (head : s.head? ≠ some c) (last : s.getLast? ≠ some c) :
    trimOf c s = s := by
  unfold trimOf
  cases s with
  | nil => exact trimEndOf_of_last last
  | cons d s =>
    have hd : d ≠ c := by simpa using head
    rw [List.dropWhile_cons_of_neg (by simpa using hd), trimEndOf_of_last last]

theorem trimEndOf_append (s r : List Char) :
    trimEndOf c (s ++ r) = if trimEndOf c r = [] then trimEndOf c s else s ++ trimEndOf c r := by
  unfold trimEndOf
  rw [List.reverse_append, List.dropWhile_append]
  by_cases h : r.reverse.dropWhile (· == c) = []
  · simp [h]
  · simp [h]

theorem trimEndOf_cons_of_nil {s : List Char} (h : trimEndOf c s = []) (d : Char) :
    trimEndOf c (d :: s) = if d = c then [] else [d] := by
  have cut := trimEndOf_append (c := c) [d] s
  rw [if_pos h] at cut
  rw [← List.singleton_append, cut]
  by_cases hd : d = c
  · simp [trimEndOf, hd]
  · simp [trimEndOf, hd]

theorem trimEndOf_cons_of_ne_nil {s : List Char} (h : trimEndOf c s ≠ []) (d : Char) :
    trimEndOf c (d :: s) = d :: trimEndOf c s := by
  have cut := trimEndOf_append (c := c) [d] s
  rwa [if_neg h] at cut

theorem trimEndOf_trimEndOf (s : List Char) : trimEndOf c (trimEndOf c s) = trimEndOf c s := by
  induction s with
  | nil => rfl
  | cons d s ih =>
    by_cases h : trimEndOf c s = []
    · rw [trimEndOf_cons_of_nil h]
      by_cases hd : d = c
      · simp [hd, trimEndOf]
      · simp [hd, trimEndOf]
    · rw [trimEndOf_cons_of_ne_nil h, trimEndOf_cons_of_ne_nil (ih.symm ▸ h), ih]

theorem trimOf_self_cons (s : List Char) : trimOf c (c :: s) = trimOf c s := by
  simp [trimOf]

theorem trimOf_cons_of_ne {d : Char} (h : d ≠ c) (s : List Char) :
    trimOf c (d :: s) = trimEndOf c (d :: s) := by
  simp [trimOf, h]

theorem exists_trimEndOf_cons {d : Char} (h : d ≠ c) (s : List Char) :
    ∃ u, trimEndOf c (d :: s) = d :: u := by
  by_cases hs : trimEndOf c s = []
  · exact ⟨[], by rw [trimEndOf_cons_of_nil hs, if_neg h]⟩
  · exact ⟨_, trimEndOf_cons_of_ne_nil hs d⟩

theorem head?_trimOf (s : List Char) : (trimOf c s).head? ≠ some c := by
  induction s with
  | nil => simp [trimOf, trimEndOf]
  | cons d s ih =>
    by_cases hd : d = c
    · subst hd
      rwa [trimOf_self_cons]
    · obtain ⟨u, hu⟩ := exists_trimEndOf_cons hd s
      simp [trimOf_cons_of_ne hd, hu, hd]

theorem trimOf_trimEndOf (s : List Char) : trimOf c (trimEndOf c s) = trimOf c s := by
  induction s with
  | nil => rfl
  | cons d s ih =>
    by_cases hd : d = c
    · subst hd
      rw [trimOf_self_cons, ← ih]
      by_cases h : trimEndOf d s = []
      · simp [trimEndOf_cons_of_nil h, h]
      · rw [trimEndOf_cons_of_ne_nil h, trimOf_self_cons]
    · obtain ⟨u, hu⟩ := exists_trimEndOf_cons hd s
      rw [trimOf_cons_of_ne hd, hu, trimOf_cons_of_ne hd, ← hu, trimEndOf_trimEndOf]

theorem trimOf_of_head {s : List Char} (h : s.head? ≠ some c) : trimOf c s = trimEndOf c s := by
  cases s with
  | nil => rfl
  | cons d s => exact trimOf_cons_of_ne (by simpa using h) s

theorem trimEndOf_trimOf (s : List Char) : trimEndOf c (trimOf c s) = trimOf c s :=
  trimEndOf_trimEndOf (s.dropWhile (· == c))

theorem trimOf_trimOf (s : List Char) : trimOf c (trimOf c s) = trimOf c s := by
  rw [trimOf_of_head (head?_trimOf s), trimEndOf_trimOf]

theorem trimEndOf_eq_nil {s : List Char} (h : trimOf c s = []) : trimEndOf c s = [] := by
  induction s with
  | nil => rfl
  | cons d s ih =>
    by_cases hd : d = c
    · subst hd
      rw [trimOf_self_cons] at h
      rw [trimEndOf_cons_of_nil (ih h), if_pos rfl]
    · rwa [trimOf_cons_of_ne hd] at h

theorem getLast?_trimEndOf (s : List Char) : (trimEndOf c s).getLast? ≠ some c := by
  unfold trimEndOf
  rw [List.getLast?_reverse]
  intro h
  have kept := List.head?_dropWhile_not (· == c) s.reverse
  rw [h] at kept
  simp at kept

theorem exists_trimEndOf_append (s : List Char) : ∃ n, s = trimEndOf c s ++ List.replicate n c := by
  have cut : s.reverse.takeWhile (· == c) =
      List.replicate (s.reverse.takeWhile (· == c)).length c := by
    refine List.eq_replicate_of_mem fun d hd => ?_
    simpa using List.all_eq_true.mp List.all_takeWhile d hd
  refine ⟨(s.reverse.takeWhile (· == c)).length, ?_⟩
  have parts := congrArg List.reverse
    (List.takeWhile_append_dropWhile (p := (· == c)) (l := s.reverse))
  rw [List.reverse_append, List.reverse_reverse, cut, List.reverse_replicate] at parts
  exact parts.symm

/-- Trimming what lies below a trimmed text leaves it there, or leaves the text itself. -/
theorem trimOf_below {d : List Char} (hd : d ≠ []) (h : trimOf c d = d) (r : List Char) :
    trimOf c (d ++ c :: r) = d ∨ ∃ r', trimOf c (d ++ c :: r) = d ++ c :: r' := by
  have first : (d ++ c :: r).head? ≠ some c := by
    rw [List.head?_append_of_ne_nil d hd, ← h]
    exact head?_trimOf d
  rw [trimOf_of_head first, trimEndOf_append]
  by_cases hr : trimEndOf c r = []
  · left
    rw [trimEndOf_cons_of_nil hr, if_pos rfl, if_pos rfl, ← h, trimEndOf_trimOf]
  · right
    rw [trimEndOf_cons_of_ne_nil hr]
    exact ⟨_, if_neg (List.cons_ne_nil _ _)⟩

theorem exists_getLast?_intercalate {ws : List (List Char)} (h : ∀ w ∈ ws, w ≠ [] ∧ c ∉ w)
    (hne : ws ≠ []) :
    ∃ d, (List.intercalate [c] ws).getLast? = some d ∧ d ≠ c := by
  induction ws with
  | nil => exact absurd rfl hne
  | cons w ws ih =>
    obtain ⟨hw, hc⟩ := h w (by simp)
    cases ws with
    | nil =>
      have hlast := List.getLast?_eq_some_getLast hw
      refine ⟨w.getLast hw, by simpa [List.intercalate] using hlast, ?_⟩
      rintro heq
      exact hc (heq ▸ List.getLast_mem hw)
    | cons v ws =>
      obtain ⟨d, hd, hdc⟩ := ih (fun u hu => h u (by simp [hu])) (by simp)
      refine ⟨d, ?_, hdc⟩
      rw [intercalate_cons (by simp), List.getLast?_append, List.getLast?_cons, hd]
      rfl

theorem head?_intercalate {ws : List (List Char)} (h : ∀ w ∈ ws, w ≠ [] ∧ c ∉ w) :
    (List.intercalate [c] ws).head? ≠ some c := by
  cases ws with
  | nil => simp [List.intercalate]
  | cons w ws =>
    obtain ⟨hw, hc⟩ := h w (by simp)
    cases w with
    | nil => exact absurd rfl hw
    | cons d w =>
      rw [List.mem_cons, not_or] at hc
      cases ws with
      | nil => simpa [List.intercalate] using Ne.symm hc.1
      | cons v ws => simpa [intercalate_cons] using Ne.symm hc.1

theorem trimOf_intercalate {ws : List (List Char)} (h : ∀ w ∈ ws, w ≠ [] ∧ c ∉ w) :
    trimOf c (List.intercalate [c] ws) = List.intercalate [c] ws := by
  refine trimOf_of_ends (head?_intercalate h) ?_
  by_cases hne : ws = []
  · simp [hne, List.intercalate]
  · obtain ⟨d, hd, hdc⟩ := exists_getLast?_intercalate h hne
    simpa [hd] using hdc

end ViewWeave.Text
