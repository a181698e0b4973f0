/-!
# Sorted tables

A table from names to values is a list of pairs in strictly ascending byte order of the names.
-/

namespace ViewWeave.Sorted

variable {α : Type}

def insert (k : String) (v : α) : List (String × α) → List (String × α)
  | [] => [(k, v)]
  | (k', v') :: rest =>
    if k < k' then (k, v) :: (k', v') :: rest
    else if k = k' then (k, v) :: rest
    else (k', v') :: insert k v rest

/-- The table of a list of assignments, of which the last for each name counts. -/
def ofList (xs : List (String × α)) : List (String × α) :=
  xs.foldl (fun t (k, v) => insert k v t) []

def Ascending (t : List (String × α)) : Prop := t.Pairwise fun p q => p.1 < q.1

theorem lookup_cons_pair (l k : String) (v : α) (t : List (String × α)) :
    ((k, v) :: t).lookup l = if l = k then some v else t.lookup l := by
  by_cases h : l = k
  · simp [h]
  · simp [List.lookup_cons, h, beq_eq_false_iff_ne.2 h]

theorem lookup_insert (k : String) (v : α) (t : List (String × α)) (l : String) :
    (insert k v t).lookup l = if l = k then some v else t.lookup l := by
  induction t with
  | nil => simp [insert, lookup_cons_pair]
  | cons p rest ih =>
    obtain ⟨k', v'⟩ := p
    unfold insert
    split
    · simp [lookup_cons_pair]
    · split
      · rename_i _ he
        subst he
        by_cases h : l = k <;> simp [lookup_cons_pair, h]
      · rename_i _ hne
        simp only [lookup_cons_pair, ih]
        by_cases h : l = k'
        · subst h; simp [Ne.symm hne]
        · simp [h]

theorem mem_insert {k : String} {v : α} {p : String × α} :
    ∀ {t : List (String × α)}, p ∈ insert k v t → p = (k, v) ∨ p ∈ t
  | [], h => .inl (List.mem_singleton.mp h)
  | (k', v') :: rest, h => by
    unfold insert at h
    split at h
    · exact List.mem_cons.mp h
    split at h
    · exact (List.mem_cons.mp h).imp_right (List.mem_cons_of_mem _)
    rcases List.mem_cons.mp h with rfl | h
    · exact .inr (List.mem_cons_self ..)
    · exact (mem_insert h).imp_right (List.mem_cons_of_mem _)

theorem ascending_insert (k : String) (v : α) :
    ∀ {t : List (String × α)}, Ascending t → Ascending (insert k v t)
  | [], _ => List.pairwise_singleton _ _
  | (k', v') :: rest, h => by
    obtain ⟨first, tail⟩ := List.pairwise_cons.mp h
    unfold insert
    split
    · rename_i hlt
      refine List.pairwise_cons.mpr ⟨fun p hp => ?_, h⟩
      rcases List.mem_cons.mp hp with rfl | hp
      · exact hlt
      · exact String.lt_trans hlt (first p hp)
    split
    · rename_i heq
      subst heq
      exact List.pairwise_cons.mpr ⟨first, tail⟩
    rename_i hlt hne
    refine List.pairwise_cons.mpr ⟨fun p hp => ?_, ascending_insert k v tail⟩
    rcases mem_insert hp with rfl | hp
    · exact Classical.not_not.mp fun hle => hne (String.le_antisymm hle hlt)
    · exact first p hp

end ViewWeave.Sorted
