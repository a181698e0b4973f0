import ViewWeave.Data.Sorted
import Mathlib.Data.List.Induction
import Mathlib.Data.List.Perm.Basic

/-!
# Tables as sets of entries

What a sorted table holds: looking up a name finds its entry, and a table made from entries of
different names holds these entries and no others.
-/

namespace ViewWeave.Sorted

open scoped List

variable {α : Type}

/-! ## Looking up -/

theorem lookup_isSome_iff {k : String} :
    ∀ {t : List (String × α)}, (t.lookup k).isSome ↔ k ∈ t.map (·.1)
  | [] => by simp
  | (k', v) :: t => by
    rw [lookup_cons_pair, List.map_cons, List.mem_cons, ← lookup_isSome_iff]
    by_cases h : k = k' <;> simp [h]

theorem lookup_eq_none_iff {k : String} {t : List (String × α)} :
    t.lookup k = none ↔ k ∉ t.map (·.1) := by
  rw [← lookup_isSome_iff, Option.not_isSome_iff_eq_none]

theorem mem_of_lookup {k : String} {v : α} :
    ∀ {t : List (String × α)}, t.lookup k = some v → (k, v) ∈ t
  | [], h => by simp at h
  | (k', v') :: t, h => by
    rw [lookup_cons_pair] at h
    split at h
    · rename_i hk
      cases h
      exact hk ▸ List.mem_cons_self ..
    · exact List.mem_cons_of_mem _ (mem_of_lookup h)

theorem lookup_of_mem {k : String} {v : α} :
    ∀ {t : List (String × α)}, Ascending t → (k, v) ∈ t → t.lookup k = some v
  | (k', v') :: t, ht, h => by
    obtain ⟨first, tail⟩ := List.pairwise_cons.mp ht
    rw [lookup_cons_pair]
    rcases List.mem_cons.mp h with heq | hmem
    · cases heq
      exact if_pos rfl
    · have hne : k ≠ k' := fun hk => absurd (first _ hmem) (hk ▸ String.lt_irrefl k)
      rw [if_neg hne]
      exact lookup_of_mem tail hmem

/-! ## Building -/

theorem ofList_concat (xs : List (String × α)) (k : String) (v : α) :
    ofList (xs ++ [(k, v)]) = insert k v (ofList xs) := by
  unfold ofList
  rw [List.foldl_append]
  rfl

theorem ascending_ofList (xs : List (String × α)) : Ascending (ofList xs) := by
  induction xs using List.reverseRecOn with
  | nil => exact List.Pairwise.nil
  | append_singleton xs p ih =>
    rw [ofList_concat]
    exact ascending_insert _ _ ih

theorem insert_perm {k : String} {v : α} :
    ∀ {t : List (String × α)}, k ∉ t.map (·.1) → (insert k v t).Perm ((k, v) :: t)
  | [], _ => List.Perm.refl _
  | (k', v') :: t, h => by
    rw [List.map_cons, List.mem_cons, not_or] at h
    unfold insert
    split
    · exact List.Perm.refl _
    rw [if_neg h.1]
    exact ((insert_perm h.2).cons _).trans (List.Perm.swap ..)

theorem ofList_perm {xs : List (String × α)} (h : (xs.map (·.1)).Nodup) : (ofList xs).Perm xs := by
  induction xs using List.reverseRecOn with
  | nil => exact List.Perm.refl _
  | append_singleton xs p ih =>
    rw [List.map_append, List.nodup_append] at h
    obtain ⟨hxs, -, hp⟩ := h
    have perm := ih hxs
    have fresh : p.1 ∉ (ofList xs).map (·.1) := by
      intro hmem
      rw [(perm.map _).mem_iff] at hmem
      exact hp _ hmem _ (List.mem_singleton_self _) rfl
    rw [ofList_concat]
    calc insert p.1 p.2 (ofList xs)
      _ ~ p :: ofList xs := insert_perm fresh
      _ ~ p :: xs := perm.cons p
      _ ~ xs ++ [p] := (List.perm_append_singleton p xs).symm

theorem mem_of_mem_ofList {xs : List (String × α)} {p : String × α} (h : p ∈ ofList xs) :
    p ∈ xs := by
  induction xs using List.reverseRecOn with
  | nil => exact absurd h List.not_mem_nil
  | append_singleton xs q ih =>
    rw [ofList_concat] at h
    rcases mem_insert h with rfl | h
    · simp
    · simp [ih h]

theorem exists_mem_ofList {xs : List (String × α)} {k : String} {v : α} (h : (k, v) ∈ xs) :
    ∃ w, (k, w) ∈ ofList xs := by
  suffices found : ((ofList xs).lookup k).isSome by
    obtain ⟨w, hw⟩ := Option.isSome_iff_exists.mp found
    exact ⟨w, mem_of_lookup hw⟩
  induction xs using List.reverseRecOn with
  | nil => exact absurd h List.not_mem_nil
  | append_singleton xs q ih =>
    rw [ofList_concat, lookup_insert]
    split
    · rfl
    · rename_i hne
      rcases List.mem_append.mp h with h | h
      · exact ih h
      · cases List.mem_singleton.mp h
        exact absurd rfl hne

/-- Where no name is given two values, the table holds all assignments. -/
theorem mem_ofList_iff {xs : List (String × α)} (h : ∀ k v w, (k, v) ∈ xs → (k, w) ∈ xs → v = w)
    {k : String} {v : α} : (k, v) ∈ ofList xs ↔ (k, v) ∈ xs := by
  refine ⟨mem_of_mem_ofList, fun hv => ?_⟩
  obtain ⟨w, hw⟩ := exists_mem_ofList hv
  rwa [h k v w hv (mem_of_mem_ofList hw)]

/-- Of the assignments to one name the last counts. -/
theorem lookup_ofList (xs : List (String × α)) (k : String) :
    (ofList xs).lookup k = xs.reverse.lookup k := by
  induction xs using List.reverseRecOn with
  | nil => rfl
  | append_singleton xs p ih =>
    rw [ofList_concat, lookup_insert, ih, List.reverse_append, List.reverse_singleton,
      List.singleton_append, lookup_cons_pair]

theorem lookup_ofList_eq_some_iff {xs : List (String × α)} {k : String} {v : α} :
    (ofList xs).lookup k = some v ↔
      ∃ before after, xs = before ++ (k, v) :: after ∧ ∀ p ∈ after, p.1 ≠ k := by
  rw [lookup_ofList, List.lookup_eq_some_iff]
  constructor
  · rintro ⟨after, before, split, others⟩
    refine ⟨before.reverse, after.reverse, ?_, ?_⟩
    · rw [← List.reverse_reverse xs, split]
      simp
    · intro p hp
      exact (bne_iff_ne.mp (others p (List.mem_reverse.mp hp))).symm
  · rintro ⟨before, after, rfl, others⟩
    refine ⟨after.reverse, before.reverse, by simp, ?_⟩
    intro p hp
    exact bne_iff_ne.mpr (others p (List.mem_reverse.mp hp)).symm

/-- Where no mark is taken back, the marks that count are those ever made. -/
theorem mem_ofList_of_rising {xs : List (String × Bool)}
    (rising : xs.Pairwise fun x y => x.1 = y.1 → x.2 → y.2) {k : String} {b : Bool} :
    (k, b) ∈ ofList xs ↔ (∃ c, (k, c) ∈ xs) ∧ b = decide ((k, true) ∈ xs) := by
  have last {c : Bool} (hc : (k, c) ∈ ofList xs) : c = decide ((k, true) ∈ xs) := by
    obtain ⟨before, after, rfl, others⟩ :=
      lookup_ofList_eq_some_iff.mp (lookup_of_mem (ascending_ofList xs) hc)
    cases c with
    | true => simp
    | false =>
      obtain ⟨-, -, earlier⟩ := List.pairwise_append.mp rising
      refine (decide_eq_false fun marked => ?_).symm
      rcases List.mem_append.mp marked with old | new
      · exact absurd (earlier _ old _ (List.mem_cons_self ..) rfl rfl) Bool.false_ne_true
      · rcases List.mem_cons.mp new with same | new
        · cases same
        · exact others _ new rfl
  constructor
  · intro hb
    exact ⟨⟨b, mem_of_mem_ofList hb⟩, last hb⟩
  · rintro ⟨⟨c, hc⟩, rfl⟩
    obtain ⟨d, hd⟩ := exists_mem_ofList hc
    rwa [← last hd]

end ViewWeave.Sorted
