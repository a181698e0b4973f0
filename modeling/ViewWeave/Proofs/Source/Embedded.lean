import ViewWeave.Proofs.Source.Listings
import Mathlib.Data.List.Nodup

/-!
# Embedded trees

An embedded source of the files of a tree, with each of its directories declared, shows the tree:
`ViewTree.embedded_shows`. A directory is then a start of some stored path, and no start of a stored
path is anything else.
-/

namespace ViewWeave

/-- The embedded source of a tree, with all directories declared. -/
def ViewTree.embedded (t : ViewTree) : EmbeddedSource :=
  ([] :: t.dirs).foldl (fun s p => s.withDir (pathText p))
    (.ofFiles (t.files.map fun f => (pathText f.1, f.2)))

namespace EmbeddedSource

/-! ## Stored paths -/

theorem trimmed_pathText {p : List String} (h : IsPath p) : trimmed (pathText p) = pathText p := by
  unfold trimmed
  rw [h.trimOf]
  simp

theorem pathParts_pathText {p : List String} (h : IsPath p) : pathParts (pathText p) = p := by
  by_cases hne : p = []
  · subst hne
    rfl
  · have full : pathText p ≠ "" := by
      rw [Ne, ← String.toList_eq_nil_iff]
      exact mt h.isEmpty_iff.mp hne
    rw [pathParts_of_ne_empty full, h.splitAt hne]
    simp [Function.comp_def]

theorem childOf_pathText {p : List String} (h : IsPath p) (n : String) :
    childOf (pathText p) n = pathText (p ++ [n]) := by
  unfold childOf
  rw [h.childPath, String.ofList_toList]

/-- What a stored path shows of a directory: the part up to its first name below the directory. -/
theorem child?_eq_some_iff {p q : List String} (hp : IsPath p) (hq : IsPath q) (isDir : Bool)
    {k : String} {b : Bool} : child? (pathText p).toList (pathText q) isDir = some (k, b) ↔
      ∃ n rest, q = p ++ n :: rest ∧ k = pathText (p ++ [n]) ∧ b = (isDir || !rest.isEmpty) := by
  have clean : ∀ n ∈ pathParts (pathText q), n ≠ "" := by
    rw [pathParts_pathText hq]
    exact fun n hn => (hq n hn).nonempty
  constructor
  · intro h
    obtain ⟨n, rest, parts, path, flag⟩ := parts_of_child? clean h
    rw [pathParts_pathText hp, pathParts_pathText hq] at parts
    rw [childOf_pathText hp] at path
    exact ⟨n, rest, parts, path, flag⟩
  · rintro ⟨n, rest, rfl, rfl, rfl⟩
    have parts : pathParts (pathText (p ++ n :: rest)) = pathParts (pathText p) ++ n :: rest := by
      rw [pathParts_pathText hp, pathParts_pathText hq]
    rw [child?_of_parts clean parts, childOf_pathText hp]

end EmbeddedSource

/-! ## The source of a tree -/

namespace ViewTree

variable {t : ViewTree}

theorem embedded_eq_ofTable (t : ViewTree) : t.embedded =
    .ofTable (t.files.map fun f => (pathText f.1, f.2)) (([] :: t.dirs).map pathText) := by
  unfold embedded EmbeddedSource.ofTable
  rw [List.foldl_map]

theorem embedded_dirs (t : ViewTree) : t.embedded.dirs = "" :: t.dirs.map pathText := by
  have trim : ∀ p ∈ [] :: t.dirs, EmbeddedSource.trimmed (pathText p) = pathText p := by
    intro p hp
    refine EmbeddedSource.trimmed_pathText ?_
    rcases List.mem_cons.mp hp with rfl | hp
    · exact fun n hn => absurd hn List.not_mem_nil
    · exact isPath_dir hp
  rw [embedded_eq_ofTable, EmbeddedSource.ofTable_dirs, List.map_map]
  exact List.map_congr_left trim

theorem embedded_files (t : ViewTree) :
    t.embedded.files = Sorted.ofList (t.files.map fun f => (pathText f.1, f.2)) := by
  rw [embedded_eq_ofTable, EmbeddedSource.ofTable_files, List.map_map]
  refine congrArg Sorted.ofList (List.map_congr_left fun f hf => ?_)
  simp [EmbeddedSource.trimmed_pathText (isPath_file hf)]

theorem mem_embedded_files {p : String} {c : String} :
    (p, c) ∈ t.embedded.files ↔ ∃ f ∈ t.files, p = pathText f.1 ∧ c = f.2 := by
  rw [embedded_files, Sorted.mem_ofList_iff]
  · simp only [List.mem_map, Prod.mk.injEq]
    exact ⟨fun ⟨f, hf, h⟩ => ⟨f, hf, h.1.symm, h.2.symm⟩,
      fun ⟨f, hf, h⟩ => ⟨f, hf, h.1.symm, h.2.symm⟩⟩
  · intro k v w hv hw
    obtain ⟨f, hf, hfv⟩ := List.mem_map.mp hv
    obtain ⟨g, hg, hgw⟩ := List.mem_map.mp hw
    simp only [Prod.mk.injEq] at hfv hgw
    have path := pathText_injective (isPath_file hf) (isPath_file hg) (hfv.1.trans hgw.1.symm)
    -- two files of one path would make the paths of the tree repeat
    have distinct := (List.nodup_append.mp t.distinct).1
    have same : f = g := List.inj_on_of_nodup_map distinct hf hg path
    rw [← hfv.2, ← hgw.2, same]

theorem embedded_lookup {f : List String × String} (h : f ∈ t.files) :
    t.embedded.files.lookup (pathText f.1) = some f.2 := by
  refine Sorted.lookup_of_mem ?_ (mem_embedded_files.mpr ⟨f, h, rfl, rfl⟩)
  rw [embedded_files]
  exact Sorted.ascending_ofList _

theorem embedded_lookup_isSome {p : List String} (hp : IsPath p) :
    (t.embedded.files.lookup (pathText p)).isSome ↔ p ∈ t.files.map (·.1) := by
  constructor
  · intro h
    obtain ⟨c, hc⟩ := Option.isSome_iff_exists.mp h
    obtain ⟨f, hf, path, -⟩ := mem_embedded_files.mp (Sorted.mem_of_lookup hc)
    rw [pathText_injective hp (isPath_file hf) path]
    exact List.mem_map_of_mem hf
  · intro h
    obtain ⟨f, hf, rfl⟩ := List.mem_map.mp h
    simp [embedded_lookup hf]

theorem mem_embedded_dirs {x : String} : x ∈ t.embedded.dirs ↔ ∃ p, t.IsDir p ∧ x = pathText p := by
  rw [embedded_dirs, List.mem_cons, List.mem_map]
  constructor
  · rintro (rfl | ⟨p, hp, rfl⟩)
    · exact ⟨[], .inl rfl, rfl⟩
    · exact ⟨p, .inr hp, rfl⟩
  · rintro ⟨p, rfl | hp, rfl⟩
    · exact .inl rfl
    · exact .inr ⟨p, hp, rfl⟩

theorem pathText_mem_embedded_dirs {p : List String} (hp : IsPath p) :
    pathText p ∈ t.embedded.dirs ↔ t.IsDir p := by
  refine ⟨fun h => ?_, fun h => mem_embedded_dirs.mpr ⟨p, h, rfl⟩⟩
  obtain ⟨q, hq, path⟩ := mem_embedded_dirs.mp h
  exact pathText_injective hp hq.isPath path ▸ hq

/-- What a path of the tree shows of `p` is what lies right below `p` on the way to it. -/
theorem below_of_child? {p r : List String} (hp : IsPath p) (hr : r ∈ t.paths) {k : String}
    {b : Bool} (hc : EmbeddedSource.child? (pathText p).toList (pathText r) (decide (t.IsDir r)) =
      some (k, b)) :
    ∃ q ∈ t.paths, q.dropLast = p ∧ k = pathText q ∧ b = decide (t.IsDir q) := by
  obtain ⟨n, rest, rfl, rfl, rfl⟩ := (EmbeddedSource.child?_eq_some_iff hp (isPath hr) _).mp hc
  cases rest with
  | nil => exact ⟨p ++ [n], hr, by simp, rfl, by simp⟩
  | cons m rest =>
    have dir : t.IsDir (p ++ [n]) := isDir_of_append (q := m :: rest) (by simp) (by simpa using hr)
    exact ⟨p ++ [n], dir.mem_paths (by simp), by simp, rfl, by simp [dir]⟩

theorem child?_of_mem {q : List String} (hq : q ∈ t.paths) (isDir : Bool) :
    EmbeddedSource.child? (pathText q.dropLast).toList (pathText q) isDir =
      some (pathText q, isDir) := by
  obtain ⟨n, hn⟩ : ∃ n, q = q.dropLast ++ [n] :=
    ⟨q.getLast (t.named q hq).1, (List.dropLast_append_getLast _).symm⟩
  have path := isPath hq
  have above : IsPath q.dropLast := by
    rw [hn] at path
    exact path.of_append_left
  exact (EmbeddedSource.child?_eq_some_iff above path isDir).mpr ⟨n, [], hn, by rw [← hn], by simp⟩

/-- What the stored paths show of a path is what lies right below it in the tree. -/
theorem mem_stored_iff {p : List String} (hp : IsPath p) {k : String} {b : Bool} :
    (k, b) ∈ t.embedded.files.filterMap
        (fun f => EmbeddedSource.child? (pathText p).toList f.1 false) ++
        t.embedded.dirs.filterMap (fun d => EmbeddedSource.child? (pathText p).toList d true) ↔
      ∃ q ∈ t.paths, q.dropLast = p ∧ k = pathText q ∧ b = decide (t.IsDir q) := by
  rw [List.mem_append, List.mem_filterMap, List.mem_filterMap]
  constructor
  · rintro (⟨⟨x, c⟩, hx, hc⟩ | ⟨x, hx, hc⟩)
    · obtain ⟨f, hf, rfl, rfl⟩ := mem_embedded_files.mp hx
      rw [← decide_eq_false (not_isDir_of_file hf)] at hc
      exact below_of_child? hp (mem_paths_of_file hf) hc
    · obtain ⟨d, hd, rfl⟩ := mem_embedded_dirs.mp hx
      -- the top is declared too, but lies below nothing
      have below : d ≠ [] := by
        rintro rfl
        obtain ⟨n, rest, top, -⟩ := (EmbeddedSource.child?_eq_some_iff hp hd.isPath true).mp hc
        simp at top
      rw [← decide_eq_true hd] at hc
      exact below_of_child? hp (hd.mem_paths below) hc
  · rintro ⟨q, hq, rfl, rfl, rfl⟩
    by_cases hd : t.IsDir q
    · rw [decide_eq_true hd]
      exact .inr ⟨pathText q, mem_embedded_dirs.mpr ⟨q, hd, rfl⟩, child?_of_mem hq true⟩
    · obtain ⟨f, hf, rfl⟩ := exists_file hq hd
      rw [decide_eq_false hd]
      exact .inl ⟨(pathText f.1, f.2), mem_embedded_files.mpr ⟨f, hf, rfl, rfl⟩,
        child?_of_mem hq false⟩

theorem mem_embedded_children {p : List String} (hp : IsPath p) {k : String} {b : Bool} :
    (k, b) ∈ t.embedded.children (pathText p).toList ↔
      ∃ q ∈ t.paths, q.dropLast = p ∧ k = pathText q ∧ b = decide (t.IsDir q) := by
  unfold EmbeddedSource.children
  rw [Sorted.mem_ofList_iff]
  · exact mem_stored_iff hp
  · intro k v w hv hw
    obtain ⟨q, hq, -, rfl, rfl⟩ := (mem_stored_iff hp).mp hv
    obtain ⟨r, hr, -, path, rfl⟩ := (mem_stored_iff hp).mp hw
    rw [pathText_injective (isPath hq) (isPath hr) path]

/-! ## Listing and reading -/

theorem embedded_list {p : List String} (h : t.IsDir p) : ∃ entries,
    t.embedded.list (pathText p) = .ok entries ∧ entries.Pairwise (fun a b => a.path < b.path) ∧
      ∀ e, e ∈ entries ↔ ∃ q ∈ t.paths, q.dropLast = p ∧ e = t.entry q := by
  have hp := h.isPath
  refine ⟨(t.embedded.children (pathText p).toList).map fun c => ⟨c.1, c.2⟩, ?_, ?_, fun e => ?_⟩
  · have not_file : (t.embedded.files.lookup (pathText p)).isSome = false := by
      rw [Bool.eq_false_iff, Ne, embedded_lookup_isSome hp]
      intro hm
      obtain ⟨f, hf, rfl⟩ := List.mem_map.mp hm
      exact not_isDir_of_file hf h
    have declared := (pathText_mem_embedded_dirs hp).mpr h
    unfold EmbeddedSource.list
    simp [EmbeddedSource.trimmed_pathText hp, not_file, declared]
  · rw [List.pairwise_map]
    exact Sorted.ascending_ofList _
  · rw [List.mem_map]
    constructor
    · rintro ⟨⟨k, b⟩, hc, rfl⟩
      obtain ⟨q, hq, hd, rfl, rfl⟩ := (mem_embedded_children hp).mp hc
      exact ⟨q, hq, hd, rfl⟩
    · rintro ⟨q, hq, hd, rfl⟩
      exact ⟨(pathText q, decide (t.IsDir q)),
        (mem_embedded_children hp).mpr ⟨q, hq, hd, rfl, rfl⟩, rfl⟩

theorem embedded_refuse {p : List String} (hp : IsPath p) (h : ¬t.IsDir p) :
    ∃ e, t.embedded.list (pathText p) = .error e := by
  have undeclared := mt (pathText_mem_embedded_dirs hp).mp h
  have childless : t.embedded.children (pathText p).toList = [] := by
    rw [List.eq_nil_iff_forall_not_mem]
    rintro ⟨k, b⟩ hc
    obtain ⟨q, hq, rfl, -⟩ := (mem_embedded_children hp).mp hc
    have last := List.dropLast_append_getLast (t.named q hq).1
    exact h (isDir_of_append (q := [q.getLast (t.named q hq).1]) (by simp) (by rwa [last]))
  unfold EmbeddedSource.list
  rw [EmbeddedSource.trimmed_pathText hp]
  dsimp only
  split
  · exact ⟨_, rfl⟩
  · simp [childless, undeclared]

theorem embedded_read {f : List String × String} (h : f ∈ t.files) :
    t.embedded.read (pathText f.1) = .ok f.2 := by
  unfold EmbeddedSource.read
  rw [EmbeddedSource.trimmed_pathText (isPath_file h), embedded_lookup h]

theorem embedded_deep {p : List String} (h : t.IsDir p) : p.length < t.embedded.longest + 2 := by
  rcases h with rfl | h
  · simp
  · have stored : (pathText p).length ∈ t.embedded.dirs.map String.length :=
      List.mem_map_of_mem (mem_embedded_dirs.mpr ⟨p, .inr h, rfl⟩)
    have short := (isPath_dir h).length_le
    have bound := (le_foldl_max (t.embedded.dirs.map String.length) 0).2 _ stored
    have rest := (le_foldl_max (t.embedded.files.map fun f => f.1.length)
      ((t.embedded.dirs.map String.length).foldl max 0)).1
    show _ < (t.embedded.files.map fun f => f.1.length).foldl max _ + 2
    omega

/-- **Embedded trees.** The embedded source of a tree shows it. -/
theorem embedded_shows (t : ViewTree) : t.embedded.toSource.Shows t where
  list := embedded_list
  refuse := embedded_refuse
  read := embedded_read
  deep := embedded_deep

end ViewTree

end ViewWeave
