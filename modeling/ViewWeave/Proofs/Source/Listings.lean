import ViewWeave.Proofs.Source.Children

/-!
# Tables of any paths

A table may repeat a path, name it both as a file and as a directory, or put a file below another
one. The files of a table are gone through in ascending order, where a path stands before all paths
below it, and the declared directories come last: so the source of a table is regular, and what it
lists and reads depends on the paths alone (`list_and_read`).
-/

namespace ViewWeave

open EmbeddedSource (trimmed)

namespace EmbeddedSource

/-! ## Tables -/

/-- The source of some files in which some directories are declared. -/
def ofTable (files : List (String × String)) (dirs : List String) : EmbeddedSource :=
  dirs.foldl withDir (ofFiles files)

section
variable (files : List (String × String)) (dirs : List String)

theorem foldl_withDir (s : EmbeddedSource) :
    dirs.foldl withDir s = ⟨s.files, s.dirs ++ dirs.map trimmed⟩ := by
  induction dirs generalizing s with
  | nil => simp
  | cons d dirs ih =>
    rw [List.foldl_cons, ih]
    simp [withDir]

theorem ofTable_files :
    (ofTable files dirs).files = Sorted.ofList (files.map fun f => (trimmed f.1, f.2)) := by
  unfold ofTable
  rw [foldl_withDir]
  rfl

theorem ofTable_dirs : (ofTable files dirs).dirs = dirs.map trimmed := by
  unfold ofTable
  rw [foldl_withDir]
  rfl

end

variable {files : List (String × String)} {dirs : List String} {x : String}

theorem mem_ofTable_stored : x ∈ (ofTable files dirs).stored ↔ ∃ f ∈ files, trimmed f.1 = x := by
  unfold stored
  rw [← Sorted.lookup_isSome_iff, ofTable_files, Sorted.lookup_ofList, Sorted.lookup_isSome_iff]
  simp

theorem mem_ofTable_dirs : x ∈ (ofTable files dirs).dirs ↔ ∃ d ∈ dirs, trimmed d = x := by
  rw [ofTable_dirs, List.mem_map]

theorem lookup_ofTable_eq_some_iff {c : String} : (ofTable files dirs).files.lookup x = some c ↔
    ∃ before p after, files = before ++ (p, c) :: after ∧ trimmed p = x ∧
      ∀ f ∈ after, trimmed f.1 ≠ x := by
  rw [ofTable_files, Sorted.lookup_ofList_eq_some_iff]
  constructor
  · rintro ⟨before, after, split, others⟩
    obtain ⟨front, back, rfl, -, tail⟩ := List.map_eq_append_iff.mp split
    obtain ⟨f, back, rfl, here, rfl⟩ := List.map_eq_cons_iff.mp tail
    obtain ⟨p, c⟩ := f
    cases here
    refine ⟨front, p, back, rfl, rfl, ?_⟩
    intro f hf
    exact others _ (List.mem_map_of_mem hf)
  · rintro ⟨before, p, after, rfl, rfl, others⟩
    refine ⟨before.map fun f => (trimmed f.1, f.2), after.map fun f => (trimmed f.1, f.2),
      by simp, ?_⟩
    intro q hq
    obtain ⟨f, hf, rfl⟩ := List.mem_map.mp hq
    exact others f hf

/-! ## Regularity -/

/-- Files in ascending order show a child as a file before anything below it shows it as a
directory. -/
theorem regular_of_ascending {s : EmbeddedSource} (named : ∀ p ∈ s.paths, ∀ n ∈ pathParts p, n ≠ "")
    (ascending : Sorted.Ascending s.files) : s.Regular where
  named := named
  rising dir := by
    have declared {y : String × Bool} {q : String} (hq : q ∈ s.dirs)
        (hy : child? dir.toList q true = some y) :
        y.2 := by
      obtain ⟨n, rest, -, -, -, flag⟩ := child_of_shown named (List.mem_append_right _ hq) hy
      simpa using flag
    unfold shown
    refine List.pairwise_append.mpr ⟨?files, ?dirs, ?across⟩
    case files =>
      refine List.pairwise_filterMap.mpr (ascending.imp_of_mem fun {f g} hf hg less => ?_)
      rintro ⟨k, b⟩ hb ⟨l, c⟩ hc same marked
      obtain rfl : k = l := same
      obtain rfl : b = true := marked
      have path {q : String} (hq : q ∈ s.stored) : q ∈ s.paths := List.mem_append_left _ hq
      obtain ⟨n, rest, -, -, partsF, flagF⟩ :=
        child_of_shown named (path (List.mem_map_of_mem hf)) hb
      obtain ⟨m, beyond, -, -, partsG, flagG⟩ :=
        child_of_shown named (path (List.mem_map_of_mem hg)) hc
      by_cases further : beyond = []
      · -- the later path would be the child itself, and the earlier one lies below it
        rw [further, List.append_nil] at partsG
        obtain rfl : g.1 = k := pathParts_injective partsG
        have below : Below g.1 f.1 := below_iff.mpr ⟨rest, by simpa using flagF, partsF⟩
        exact absurd less below.not_lt
      · rw [flagG]
        simpa using further
    case dirs =>
      refine List.pairwise_filterMap.mpr (List.pairwise_of_forall_mem_list ?_)
      intro p _ q hq x _ y hy _ _
      exact declared hq hy
    case across =>
      intro x _ y hy _ _
      obtain ⟨q, hq, shows⟩ := List.mem_filterMap.mp hy
      exact declared hq shows

theorem regular_ofTable
    (named : ∀ p ∈ files.map (·.1) ++ dirs, ∀ n ∈ pathParts (trimmed p), n ≠ "") :
    (ofTable files dirs).Regular := by
  refine regular_of_ascending ?_ ?_
  · intro p hp
    rcases List.mem_append.mp hp with file | declared
    · obtain ⟨f, hf, rfl⟩ := mem_ofTable_stored.mp file
      exact named f.1 (List.mem_append_left _ (List.mem_map_of_mem hf))
    · obtain ⟨d, hd, rfl⟩ := mem_ofTable_dirs.mp declared
      exact named d (List.mem_append_right _ hd)
  · rw [ofTable_files]
    exact Sorted.ascending_ofList _

/-! ## Listing -/

namespace Regular

variable {s : EmbeddedSource} (h : s.Regular) (path : String)
include h

theorem list_invalidInput_iff :
    (∃ e, s.list path = .error e ∧ e.kind = .invalidInput) ↔ trimmed path ∈ s.stored := by
  rw [h.list_eq]
  by_cases file : trimmed path ∈ s.stored
  · simp [file]
  · by_cases hd : s.IsDir (trimmed path)
    · simp [file, hd]
    · simp [file, hd]

theorem list_notFound_iff :
    (∃ e, s.list path = .error e ∧ e.kind = .notFound) ↔
      trimmed path ∉ s.stored ∧ ¬s.IsDir (trimmed path) := by
  rw [h.list_eq]
  by_cases file : trimmed path ∈ s.stored
  · simp [file]
  · by_cases hd : s.IsDir (trimmed path)
    · simp [file, hd]
    · simp [file, hd]

theorem exists_list_iff :
    (∃ entries, s.list path = .ok entries) ↔ trimmed path ∉ s.stored ∧ s.IsDir (trimmed path) := by
  rw [h.list_eq]
  by_cases file : trimmed path ∈ s.stored
  · simp [file]
  · by_cases hd : s.IsDir (trimmed path)
    · simp [file, hd]
    · simp [file, hd]

variable {path} {entries : List Entry} (hl : s.list path = .ok entries)
include hl

theorem mem_list_iff {e : Entry} : e ∈ entries ↔
    (∃ n, (n ≠ "" ∧ '/' ∉ n.toList) ∧ e.path = childOf (trimmed path) n) ∧ s.Has e.path ∧
      (e.isDir ↔ s.IsDir e.path) := by
  rw [h.mem_list hl]
  constructor
  · rintro ⟨n, name, rfl, has⟩
    exact ⟨⟨n, name, rfl⟩, has, entry_isDir⟩
  · rintro ⟨⟨n, name, child⟩, has, flag⟩
    obtain ⟨k, b⟩ := e
    obtain rfl : k = childOf (trimmed path) n := child
    refine ⟨n, name, congrArg (Entry.mk _) ?_, has⟩
    exact Bool.eq_iff_iff.mpr (flag.trans entry_isDir.symm)

theorem of_mem_list {e : Entry} (he : e ∈ entries) : (¬e.isDir → ∃ c, s.read e.path = .ok c) ∧
    (e.isDir → e.path ∉ s.stored → ∃ inside, s.list e.path = .ok inside) := by
  obtain ⟨-, has, flag⟩ := (h.mem_list_iff hl).mp he
  have trim : trimmed e.path = e.path := h.orderly.trimmed_child hl he
  constructor
  · intro plain
    have file : e.path ∈ s.stored := file_of_has has (mt flag.mpr plain)
    obtain ⟨c, hc⟩ := Option.isSome_iff_exists.mp (Sorted.lookup_isSome_iff.mpr file)
    refine ⟨c, ?_⟩
    unfold read
    rw [trim, hc]
  · intro isDir other
    rw [h.exists_list_iff, trim]
    exact ⟨other, flag.mp isDir⟩

end Regular

theorem read_eq_ok_iff {s : EmbeddedSource} {path c : String} :
    s.read path = .ok c ↔ s.files.lookup (trimmed path) = some c := by
  unfold read
  cases s.files.lookup (trimmed path) with
  | none => simp
  | some d => simp

theorem read_notFound_iff {s : EmbeddedSource} {path : String} :
    (∃ e, s.read path = .error e ∧ e.kind = .notFound) ↔ trimmed path ∉ s.stored := by
  unfold read stored
  rw [← Sorted.lookup_eq_none_iff]
  cases s.files.lookup (trimmed path) with
  | none => simp
  | some d => simp

/-- **Tables.** A source refuses to list a path that is a file and one that leads nowhere; of any
other path it lists the children in order, each once, with a flag for those that lead further or
were declared. Of the files of one path the last one is read. -/
theorem list_and_read (named : ∀ p ∈ files.map (·.1) ++ dirs, ∀ n ∈ pathParts (trimmed p), n ≠ "")
    (path : String) :
    let s := ofTable files dirs
    let dir := trimmed path
    ((∀ x, x ∈ s.stored ↔ ∃ f ∈ files, trimmed f.1 = x) ∧
      ∀ x, x ∈ s.dirs ↔ ∃ d ∈ dirs, trimmed d = x) ∧
    ((∃ e, s.list path = .error e ∧ e.kind = .invalidInput) ↔ dir ∈ s.stored) ∧
    (dir ∉ s.stored → ((∃ e, s.list path = .error e ∧ e.kind = .notFound) ↔
      dir ∉ s.dirs ∧ ∀ q ∈ s.stored ++ s.dirs, ¬Below dir q)) ∧
    (dir ∉ s.stored → (dir ∈ s.dirs ∨ ∃ q ∈ s.stored ++ s.dirs, Below dir q) → ∃ entries,
      s.list path = .ok entries ∧
      entries.Pairwise (fun a b => Text.utf8 a.path < Text.utf8 b.path) ∧
      ∀ e, e ∈ entries ↔ (∃ n, (n ≠ "" ∧ '/' ∉ n.toList) ∧ e.path = childOf dir n) ∧
        (∃ q ∈ s.stored ++ s.dirs, q = e.path ∨ Below e.path q) ∧
        (e.isDir ↔ e.path ∈ s.dirs ∨ ∃ q ∈ s.stored ++ s.dirs, Below e.path q)) ∧
    (∀ entries, s.list path = .ok entries → ∀ e ∈ entries, (¬e.isDir → ∃ c, s.read e.path = .ok c) ∧
      (e.isDir → e.path ∉ s.stored → ∃ inside, s.list e.path = .ok inside)) ∧
    (∀ c, s.read path = .ok c ↔ ∃ before p after,
      files = before ++ (p, c) :: after ∧ trimmed p = dir ∧ ∀ f ∈ after, trimmed f.1 ≠ dir) ∧
    ((∃ e, s.read path = .error e ∧ e.kind = .notFound) ↔ ∀ f ∈ files, trimmed f.1 ≠ dir) := by
  intro s dir
  have h : s.Regular := regular_ofTable named
  have leads (x : String) : s.Has x ↔ ∃ q ∈ s.stored ++ s.dirs, q = x ∨ Below x q := by
    refine exists_congr fun q => and_congr_right fun _ => ?_
    constructor
    · intro inside
      by_cases same : q = x
      · exact .inl same
      · exact .inr ⟨inside, Ne.symm same⟩
    · rintro (rfl | below)
      · exact List.prefix_rfl
      · exact below.1
  refine ⟨⟨fun x => mem_ofTable_stored, fun x => mem_ofTable_dirs⟩,
    h.list_invalidInput_iff path, ?_, ?_,
    fun entries hl e he => h.of_mem_list hl he, fun c =>
      read_eq_ok_iff.trans lookup_ofTable_eq_some_iff, ?_⟩
  · intro file
    rw [h.list_notFound_iff, and_iff_right file]
    simp [IsDir, paths, dir]
  · intro file hd
    obtain ⟨entries, hl⟩ := (h.exists_list_iff path).mpr ⟨file, hd⟩
    refine ⟨entries, hl, (h.orderly.ascending hl).imp Text.utf8_lt_utf8, fun e => ?_⟩
    rw [h.mem_list_iff hl, leads]
    rfl
  · rw [read_notFound_iff, mem_ofTable_stored]
    simp [dir]

end EmbeddedSource

/-- A file with another one below it and a third beside it, a directory that is also a file, and a
path given twice. -/
def crowded : List (String × String) :=
  [("a", "old"), ("/a/b", "below"), ("a.x", "beside"), ("a/", "new"), ("c", "both")]

theorem list_and_read_crowded :
    (∀ p ∈ crowded.map (·.1) ++ ["c/"], ∀ n ∈ pathParts (trimmed p), n ≠ "") ∧
    (EmbeddedSource.ofTable crowded ["c/"]).read "//a" = .ok "new" ∧
    (∃ e, (EmbeddedSource.ofTable crowded ["c/"]).list "a" = .error e ∧ e.kind = .invalidInput) ∧
    ∃ entries, (EmbeddedSource.ofTable crowded ["c/"]).list "/" = .ok entries ∧
      ⟨"a", true⟩ ∈ entries ∧ ⟨"a.x", false⟩ ∈ entries ∧ ⟨"c", true⟩ ∈ entries := by
  have named : ∀ p ∈ crowded.map (·.1) ++ ["c/"], ∀ n ∈ pathParts (trimmed p), n ≠ "" := by
    decide +kernel
  obtain ⟨-, -, -, -, -, read, -⟩ := EmbeddedSource.list_and_read named "//a"
  obtain ⟨-, refused, -⟩ := EmbeddedSource.list_and_read named "a"
  obtain ⟨-, -, -, listed, -⟩ := EmbeddedSource.list_and_read named "/"
  refine ⟨named, (read "new").mpr
    ⟨[("a", "old"), ("/a/b", "below"), ("a.x", "beside")], "a/", [("c", "both")], rfl,
    by decide +kernel, by decide +kernel⟩, refused.mpr (by decide +kernel), ?_⟩
  obtain ⟨entries, hl, -, members⟩ :=
    listed (by decide +kernel) (.inr ⟨"a", by decide +kernel, by decide +kernel⟩)
  refine ⟨entries, hl, (members _).mpr ⟨⟨"a", ?_⟩, ?_⟩, (members _).mpr ⟨⟨"a.x", ?_⟩, ?_⟩,
    (members _).mpr ⟨⟨"c", ?_⟩, ?_⟩⟩
  all_goals decide +kernel

end ViewWeave
