import ViewWeave.Proofs.Source.Disk
import ViewWeave.Proofs.Source.Orderly

/-!
# What a directory on disk lists

A file system has no two items at one place, and its names are not empty and have no slashes. That
is all it takes for a directory on disk to be listed in order: names are sorted by their bytes, each
name is read as one text only, and texts ascend as their bytes do. Links in the tree change nothing
about that.
-/

namespace ViewWeave

open EmbeddedSource (trimmed)

/-! ## Steps over a list -/

section
variable {α β : Type} {R : α → β → Prop} {xs : List α} {ys : List β}

theorem exists_of_forall₂ (h : List.Forall₂ R xs ys) {y : β} (hy : y ∈ ys) : ∃ x ∈ xs, R x y := by
  induction h with
  | nil => exact absurd hy List.not_mem_nil
  | @cons x z xs ys hx _ ih =>
    rcases List.mem_cons.mp hy with rfl | hy
    · exact ⟨x, List.mem_cons_self .., hx⟩
    · obtain ⟨w, hw, related⟩ := ih hy
      exact ⟨w, List.mem_cons_of_mem _ hw, related⟩

theorem pairwise_of_forall₂ {S : α → α → Prop} {T : β → β → Prop}
    (step : ∀ {a b x y}, R a x → R b y → S a b → T x y) (h : List.Forall₂ R xs ys)
    (hxs : xs.Pairwise S) :
    ys.Pairwise T := by
  induction h with
  | nil => exact List.Pairwise.nil
  | cons hx rest ih =>
    obtain ⟨first, others⟩ := List.pairwise_cons.mp hxs
    refine List.pairwise_cons.mpr ⟨fun y hy => ?_, ih others⟩
    obtain ⟨b, hb, related⟩ := exists_of_forall₂ rest hy
    exact step hx related (first b hb)

end

/-! ## Legal trees -/

namespace FileTree

/-- A tree that a file system can hold: no two items have one path, and no name is empty or has a
slash. -/
structure Legal (t : FileTree) : Prop where
  distinct : (t.items.map (·.1)).Nodup
  named : ∀ path ∈ t.items.map (·.1), ∀ n ∈ path, n ≠ [] ∧ slashByte ∉ n

instance (t : FileTree) : Decidable t.Legal :=
  decidable_of_iff ((t.items.map (·.1)).Nodup ∧
      ∀ path ∈ t.items.map (·.1), ∀ n ∈ path, n ≠ [] ∧ slashByte ∉ n)
    ⟨fun h => ⟨h.1, h.2⟩, fun h => ⟨h.distinct, h.named⟩⟩

theorem slash_not_mem_splitBytes {n : Bytes} : ∀ {bs : Bytes}, n ∈ splitBytes bs → slashByte ∉ n
  | [], h => by
    rw [List.mem_singleton.mp h]
    exact List.not_mem_nil
  | b :: bs, h => by
    have rest : ∀ w ∈ splitBytes bs, slashByte ∉ w := fun _ => slash_not_mem_splitBytes
    unfold splitBytes at h
    by_cases hb : b = slashByte
    · rw [if_pos hb] at h
      rcases List.mem_cons.mp h with rfl | h
      · exact List.not_mem_nil
      · exact rest n h
    · rw [if_neg hb] at h
      cases hs : splitBytes bs with
      | nil =>
        rw [hs] at h
        rw [List.mem_singleton.mp h, List.mem_singleton]
        exact fun same => hb same.symm
      | cons w ws =>
        rw [hs] at h rest
        rcases List.mem_cons.mp h with rfl | h
        · exact List.not_mem_cons_of_ne_of_not_mem (fun same => hb same.symm)
            (rest w (List.mem_cons_self ..))
        · exact rest n (List.mem_cons_of_mem _ h)

namespace Legal

variable {t : FileTree} (h : t.Legal)
include h

theorem put {path : List Bytes} (names : ∀ n ∈ path, n ≠ [] ∧ slashByte ∉ n) (i : Item) :
    (t.put path i).Legal where
  distinct := by
    unfold FileTree.put
    rw [List.map_append, List.map_singleton, List.nodup_append]
    refine ⟨(h.distinct.sublist (List.filter_sublist.map _)), List.pairwise_singleton _ _, ?_⟩
    rintro p hp q hq rfl
    obtain ⟨x, hx, path⟩ := List.mem_map.mp hp
    rw [List.mem_singleton.mp hq] at path
    simp [path] at hx
  named p hp n hn := by
    unfold FileTree.put at hp
    rw [List.map_append, List.map_singleton] at hp
    rcases List.mem_append.mp hp with old | new
    · exact h.named p ((List.filter_sublist.map _).subset old) n hn
    · rw [List.mem_singleton.mp new] at hn
      exact names n hn

theorem putDirs {path : List Bytes} (names : ∀ n ∈ path, n ≠ [] ∧ slashByte ∉ n) :
    (t.putDirs path).Legal := by
  unfold FileTree.putDirs
  refine List.foldlRecOn (List.range path.length) _ h fun t ht k _ => ?_
  dsimp only
  split
  · exact ht
  · exact ht.put (fun n hn => names n (List.mem_of_mem_take hn)) .dir

theorem putBelow {path : List Bytes} (names : ∀ n ∈ path, n ≠ [] ∧ slashByte ∉ n) (i : Item) :
    (t.putBelow path i).Legal :=
  (h.putDirs fun n hn => names n ((List.dropLast_sublist _).subset hn)).put names i

end Legal

theorem legal_ofItems (dirs : List Bytes) (files links : List (Bytes × Bytes)) :
    (ofItems dirs files links).Legal := by
  have names (p : Bytes) : ∀ n ∈ (splitBytes p).filter fun n =>
      !n.isEmpty && n != dotName, n ≠ [] ∧ slashByte ∉ n := by
    intro n hn
    obtain ⟨part, kept⟩ := List.mem_filter.mp hn
    refine ⟨?_, slash_not_mem_splitBytes part⟩
    rintro rfl
    exact absurd kept (by decide)
  have empty : FileTree.Legal { items := [] } :=
    ⟨List.nodup_nil, fun _ hp => absurd hp List.not_mem_nil⟩
  unfold ofItems
  refine List.foldlRecOn links _
    (List.foldlRecOn files _ (List.foldlRecOn dirs _ empty ?dirs) ?files) ?links
  case dirs => exact fun t ht d _ => ht.putDirs (names d)
  case files => exact fun t ht f _ => ht.putBelow (names f.1) _
  case links => exact fun t ht l _ => ht.putBelow (names l.1) _

theorem Legal.namesIn {t : FileTree} (h : t.Legal) {names found : List Bytes}
    (hn : t.namesIn names = .ok found) :
    found.Pairwise (· < ·) ∧ ∀ n ∈ found, n ≠ [] ∧ slashByte ∉ n := by
  have listed := hn
  unfold FileTree.namesIn at hn
  cases hf : t.find names with
  | error e =>
    rw [hf] at hn
    cases hn
  | ok place =>
    rw [hf] at hn
    simp only [bind, Except.bind] at hn
    split at hn
    · rename_i hd
      obtain ⟨sorted, same, ascending, members⟩ := namesIn_of_find h.distinct hf hd
      cases listed.symm.trans same
      exact ⟨ascending, fun n hn => h.named _ ((members n).mp hn) n (by simp)⟩
    · cases hn

end FileTree

/-! ## Listings -/

namespace DirSource

theorem name_of_utf8 {text : String} (h : Text.utf8 text ≠ [] ∧ slashByte ∉ Text.utf8 text) :
    text ≠ "" ∧ '/' ∉ text.toList := by
  constructor
  · rintro rfl
    exact h.1 rfl
  · intro slash
    refine h.2 ?_
    rw [Text.utf8_eq_flatMap, List.mem_flatMap]
    exact ⟨'/', slash, by decide⟩

variable {s : DirSource}

theorem path_of_entry {dir : List Char} {name : Bytes} {e : Entry} (h : s.entry dir name = .ok e) :
    ∃ text, Text.utf8 text = name ∧ e.path = String.ofList (childPath dir text.toList) := by
  unfold entry at h
  cases hd : Text.decode? name with
  | none =>
    rw [hd] at h
    cases h
  | some text =>
    rw [hd] at h
    dsimp only at h
    cases hk : s.tree.isDirectory (s.resolve dir ++ [name]) with
    | error e =>
      rw [hk] at h
      cases h
    | ok isDir =>
      rw [hk] at h
      cases h
      exact ⟨text, Text.decode?_eq_some_iff.mp hd, rfl⟩

theorem exists_names_of_list {path : String} {entries : List Entry}
    (h : s.list path = .ok entries) :
    ∃ names, s.tree.namesIn (s.resolve (trimmed path).toList) = .ok names ∧
      List.Forall₂ (fun n e => s.entry (trimmed path).toList n = .ok e) names entries := by
  unfold list at h
  dsimp only at h
  rw [show Text.trimOf '/' path.toList = (trimmed path).toList from String.toList_ofList.symm] at h
  cases hn : s.tree.namesIn (s.resolve (trimmed path).toList) with
  | error e =>
    rw [hn] at h
    cases h
  | ok names =>
    rw [hn] at h
    exact ⟨names, rfl, mapM_ok_iff.mp h⟩

theorem orderly (h : s.tree.Legal) : s.toSource.Orderly where
  child {path entries} hl e he := by
    obtain ⟨names, listed, each⟩ := exists_names_of_list hl
    obtain ⟨name, hn, made⟩ := exists_of_forall₂ each he
    obtain ⟨text, rfl, path⟩ := path_of_entry made
    exact ⟨text, name_of_utf8 ((h.namesIn listed).2 _ hn), path⟩
  ascending {path entries} hl := by
    obtain ⟨names, listed, each⟩ := exists_names_of_list hl
    -- names ascend by their bytes, and so do the texts that they spell
    refine pairwise_of_forall₂ (fun {m n d e} hd he less => ?_) each (h.namesIn listed).1
    obtain ⟨text, rfl, pathD⟩ := path_of_entry hd
    obtain ⟨text', rfl, pathE⟩ := path_of_entry he
    have ascends := Text.lt_of_utf8_lt less
    rw [pathD, pathE]
    exact childOf_lt _ ascends

end DirSource

end ViewWeave
