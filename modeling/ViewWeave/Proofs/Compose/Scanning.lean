import ViewWeave.Proofs.Compose.Failures
import ViewWeave.Proofs.Source.Children

/-!
# What a scan finds

In a well-formed embedded source a scan of a root finds the stored files below it that have the
extension, all of them and each once, in the order of their parts. Levels never run out: a directory
has more parts than the one it lies in, and no stored path has more parts than characters.
-/

namespace ViewWeave

open EmbeddedSource (trimmed)

/-- The last part of a path ends in a dot and the extension, which itself has no dot. -/
theorem hasExtension_iff {path ext : String} :
    hasExtension path ext ↔ '.' ∉ ext.toList ∧ ∃ stem, baseName path = stem ++ "." ++ ext := by
  have spelled (a : List Char) : (baseName path).toList = a ++ '.' :: ext.toList ↔
      baseName path = String.ofList a ++ "." ++ ext := by
    rw [← String.toList_inj]
    simp
  unfold hasExtension
  dsimp only
  rw [Bool.and_eq_true, List.contains_iff_mem, beq_iff_eq]
  constructor
  · rintro ⟨dot, last⟩
    obtain ⟨plain, a, ha⟩ := (Text.afterLast_eq_iff dot).mp last
    exact ⟨plain, String.ofList a, (spelled a).mp ha⟩
  · rintro ⟨plain, stem, base⟩
    have ha : (baseName path).toList = stem.toList ++ '.' :: ext.toList := by
      rw [spelled, String.ofList_toList]
      exact base
    have dot : '.' ∈ (baseName path).toList := by simp [ha]
    exact ⟨dot, (Text.afterLast_eq_iff dot).mpr ⟨plain, _, ha⟩⟩

theorem PartsAscend.eq_of_mem_iff {xs ys : List String} (hx : PartsAscend xs) (hy : PartsAscend ys)
    (same : ∀ x, x ∈ xs ↔ x ∈ ys) : xs = ys := by
  have perm : xs.Perm ys := (List.perm_ext_iff_of_nodup hx.nodup hy.nodup).mpr same
  exact perm.eq_of_pairwise (fun a b _ _ hab hba => absurd hba (List.lt_asymm hab)) hx hy

namespace EmbeddedSource

variable {s : EmbeddedSource}

def Levels (s : EmbeddedSource) (n : Nat) (dir : String) : Prop :=
  ∀ q ∈ s.paths, pathParts dir <+: pathParts q → (pathParts q).length < (pathParts dir).length + n

theorem levels_of_longest {n : Nat} (hn : s.longest + 2 ≤ n) (dir : String) : s.Levels n dir := by
  intro q hq _
  have short : q.length ≤ s.longest := by
    obtain ⟨start, files⟩ :=
      le_foldl_max (s.files.map fun f => f.1.length) ((s.dirs.map String.length).foldl max 0)
    have dirs := (le_foldl_max (s.dirs.map String.length) 0).2
    rcases List.mem_append.mp hq with file | declared
    · obtain ⟨f, hf, rfl⟩ := List.mem_map.mp file
      exact files _ (List.mem_map_of_mem hf)
    · exact Nat.le_trans (dirs _ (List.mem_map_of_mem declared)) start
  have parts := length_pathParts_le q
  omega

theorem not_levels_zero {dir : String} (hd : s.IsDir dir) : ¬s.Levels 0 dir := by
  intro levels
  obtain ⟨q, hq, inside⟩ := hd.has
  exact absurd inside.length_le (Nat.not_le_of_lt (levels q hq inside))

theorem Levels.child {n : Nat} {dir k : String} (h : s.Levels (n + 1) dir)
    (name : k ≠ "" ∧ '/' ∉ k.toList) :
    s.Levels n (childOf dir k) := by
  intro q hq inside
  have parts := pathParts_childOf dir name
  have bound := h q hq (List.IsPrefix.trans ⟨[k], parts.symm⟩ inside)
  rw [parts, List.length_append, List.length_singleton]
  omega

namespace WellFormed

variable (h : s.WellFormed) {dir : String} {entries : List Entry}
  (hl : s.toSource.list dir = .ok entries) (trim : trimmed dir = dir)
include h hl trim

/-- A directory in a directory is again one that is spelled as it is listed, with one level less
below it. -/
theorem directory_of_mem {n : Nat} (levels : s.Levels (n + 1) dir) {e : Entry} (he : e ∈ entries)
    (isDir : e.isDir) :
    trimmed e.path = e.path ∧ s.IsDir e.path ∧ s.Levels n e.path := by
  obtain ⟨k, name, rfl, -⟩ := (h.mem_list hl).mp he
  rw [trim] at isDir ⊢
  exact ⟨childOf_trimmed trim name, entry_isDir.mp isDir, levels.child name⟩

theorem file_of_mem {e : Entry} (he : e ∈ entries) (plain : ¬e.isDir) :
    e.path ∈ s.stored ∧ Below dir e.path := by
  obtain ⟨k, name, rfl, has⟩ := (h.mem_list hl).mp he
  rw [trim] at plain has ⊢
  exact ⟨file_of_has has (mt entry_isDir.mpr plain), below_childOf dir name⟩

theorem exists_mem_of_file {x : String} (file : x ∈ s.stored) (below : Below dir x) :
    ∃ e ∈ entries, if e.isDir then Below e.path x else x = e.path := by
  obtain ⟨rest, further, parts⟩ := below_iff.mp below
  obtain ⟨k, rest, rfl⟩ := List.exists_cons_of_ne_nil further
  have stored : x ∈ s.paths := List.mem_append_left _ file
  have name := name_of_parts h.named stored parts
  have inside : pathParts (childOf dir k) <+: pathParts x := by
    refine ⟨rest, ?_⟩
    rw [pathParts_childOf dir name, parts, List.append_assoc, List.singleton_append]
  refine ⟨s.entry (childOf dir k), (h.mem_list hl).mpr
    ⟨k, name, by rw [trim], x, stored, inside⟩, ?_⟩
  by_cases same : childOf dir k = x
  · have plain : ¬s.IsDir (childOf dir k) := same ▸ h.not_isDir file
    rw [if_neg (mt entry_isDir.mp plain)]
    exact same.symm
  · rw [if_pos (entry_isDir.mpr (.inr ⟨x, stored, inside, same⟩))]
    exact ⟨inside, same⟩

end WellFormed

section
variable (h : s.WellFormed) {n : Nat} {dir : String} (trim : trimmed dir = dir) (hd : s.IsDir dir)
  (levels : s.Levels n dir)
include h trim hd levels

theorem WellFormed.listFailures_eq_nil : s.toSource.listFailures n dir = [] := by
  induction n generalizing dir with
  | zero => exact absurd levels (not_levels_zero hd)
  | succ n ih =>
    obtain ⟨entries, hl⟩ : ∃ entries, s.toSource.list dir = .ok entries :=
      ⟨_, h.list_eq_ok_iff.mpr ⟨trim.symm ▸ hd, rfl⟩⟩
    rw [ViewSource.listFailures_of_ok hl]
    refine List.flatMap_eq_nil_iff.mpr fun e he => ?_
    unfold ViewSource.failuresAt
    split
    · rename_i isDir
      obtain ⟨trim', dir', levels'⟩ := h.directory_of_mem hl trim levels he isDir
      exact ih trim' dir' levels'
    · rfl

theorem WellFormed.mem_found_iff (ext x : String) : x ∈ s.toSource.found ext n dir ↔
    x ∈ s.stored ∧ Below dir x ∧ hasExtension x ext := by
  induction n generalizing dir with
  | zero => exact absurd levels (not_levels_zero hd)
  | succ n ih =>
    obtain ⟨entries, hl⟩ : ∃ entries, s.toSource.list dir = .ok entries :=
      ⟨_, h.list_eq_ok_iff.mpr ⟨trim.symm ▸ hd, rfl⟩⟩
    have deeper : ∀ e ∈ entries, e.isDir → (x ∈ s.toSource.found ext n e.path ↔
        x ∈ s.stored ∧ Below e.path x ∧ hasExtension x ext) := by
      intro e he isDir
      obtain ⟨trim', dir', levels'⟩ := h.directory_of_mem hl trim levels he isDir
      exact ih trim' dir' levels'
    rw [ViewSource.mem_found_succ hl]
    constructor
    · rintro ⟨e, he, found⟩
      by_cases isDir : e.isDir
      · rw [if_pos isDir, deeper e he isDir] at found
        obtain ⟨file, below, suffix⟩ := found
        have child := h.orderly.below_child hl he
        rw [trim] at child
        exact ⟨file, child.trans below, suffix⟩
      · rw [if_neg isDir] at found
        obtain ⟨rfl, suffix⟩ := found
        obtain ⟨file, below⟩ := h.file_of_mem hl trim he isDir
        exact ⟨file, below, suffix⟩
    · rintro ⟨file, below, suffix⟩
      obtain ⟨e, he, inside⟩ := h.exists_mem_of_file hl trim file below
      refine ⟨e, he, ?_⟩
      by_cases isDir : e.isDir
      · rw [if_pos isDir] at inside ⊢
        exact (deeper e he isDir).mpr ⟨file, inside, suffix⟩
      · rw [if_neg isDir] at inside ⊢
        exact ⟨inside, suffix⟩

end

/-! ## Scans -/

/-- What is sought under a root: the stored files below it whose last part ends in the extension. -/
def Sought (s : EmbeddedSource) (root ext path : String) : Prop :=
  path ∈ s.stored ∧ Below (trimmed root) path ∧ '.' ∉ ext.toList ∧ ∃ stem,
    baseName path = stem ++ "." ++ ext

theorem WellFormed.sought_of_empty (h : s.WellFormed) {root ext path : String}
    (empty : trimmed root = "") :
    s.Sought root ext path ↔
      path ∈ s.stored ∧ '.' ∉ ext.toList ∧ ∃ stem, baseName path = stem ++ "." ++ ext := by
  unfold Sought
  refine and_congr_right fun file => and_iff_right ?_
  rw [empty]
  exact ⟨List.nil_prefix, (h.nonempty path (List.mem_append_left _ file)).symm⟩

section
variable (h : s.WellFormed) {root : String}
  (listable : ∃ entries, s.list (trimmed root) = .ok entries)
include h listable

theorem WellFormed.isDir_of_listable : s.IsDir (trimmed root) := by
  obtain ⟨entries, hl⟩ := listable
  rw [← trimmed_trimmed root]
  exact (h.list_eq_ok_iff.mp hl).1

theorem WellFormed.mem_found_root_iff {n : Nat} (hn : s.toSource.depth ≤ n) (ext x : String) :
    x ∈ s.toSource.found ext n (trimmed root) ↔
      x ∈ s.stored ∧ Below (trimmed root) x ∧ hasExtension x ext :=
  h.mem_found_iff (trimmed_trimmed root) (h.isDir_of_listable listable)
    (levels_of_longest hn _) ext x

/-- Levels beyond those that the source takes change nothing. -/
theorem WellFormed.fragmentsIn_eq_found {n : Nat} (hn : s.toSource.depth ≤ n) (ext : String) :
    s.toSource.fragmentsIn ext n (trimmed root) =
      .ok (s.toSource.found ext s.toSource.depth (trimmed root)) := by
  have ascends (n : Nat) : PartsAscend (s.toSource.found ext n (trimmed root)) :=
    h.orderly.found_ascends n _
  rw [ViewSource.fragmentsIn_eq_verdict, h.listFailures_eq_nil (trimmed_trimmed root)
    (h.isDir_of_listable listable) (levels_of_longest hn _)]
  refine congrArg Except.ok ((ascends _).eq_of_mem_iff (ascends _) fun x => ?_)
  rw [h.mem_found_root_iff listable hn, h.mem_found_root_iff listable (Nat.le_refl _)]

/-- **Scans.** A scan of a root that can be listed ends, however many levels it is given beyond
those it takes, and finds what is sought there, each file once and in the order of the parts. -/
theorem scan_finds_sought (role : Role) (ext : String) :
    ∃ found, (∀ n ≥ s.toSource.depth, s.toSource.fragmentsIn ext n (trimmed root) = .ok found) ∧
      (scan s.toSource root role ext).run = (.ok found, [.scanned role root found.length]) ∧
      (∀ x, x ∈ found ↔ s.Sought root ext x) ∧ found.Nodup ∧ PartsAscend found := by
  have ascends : PartsAscend (s.toSource.found ext s.toSource.depth (trimmed root)) :=
    h.orderly.found_ascends _ _
  refine ⟨_, fun n hn => h.fragmentsIn_eq_found listable hn ext, ?_, fun x => ?_, ascends.nodup,
    ascends⟩
  · have found : s.toSource.fragments root ext = _ :=
      h.fragmentsIn_eq_found listable (Nat.le_refl _) ext
    unfold scan
    rw [found]
    rfl
  · rw [h.mem_found_root_iff listable (Nat.le_refl _), hasExtension_iff]
    rfl

end

end EmbeddedSource

/-- A directory beside a file whose name comes first as text, files of other extensions and a
directory without files. -/
def sections : EmbeddedSource :=
  (EmbeddedSource.ofFiles [
    ("v/a.x.tera", ""), ("v/a/z.tera", ""), ("v/a/b/c.tera", ""), ("v/a/tera", ""),
    ("v/a.tera.bak", ""), ("w/d.tera", "")]).withDir "v/none"

theorem scan_finds_sought_sections : sections.WellFormed ∧ ∃ found,
    found = ["v/a/b/c.tera", "v/a/z.tera", "v/a.x.tera"] ∧
      (∀ n ≥ sections.toSource.depth, sections.toSource.fragmentsIn "tera" n (trimmed "//v/") =
        .ok found) ∧
      (scan sections.toSource "//v/" .page "tera").run =
        (.ok found, [.scanned .page "//v/" found.length]) ∧
      (∀ x, x ∈ found ↔ sections.Sought "//v/" "tera" x) ∧ found.Nodup ∧ PartsAscend found := by
  have wellFormed : sections.WellFormed := by decide +kernel
  have listable : ∃ entries, sections.list (trimmed "//v/") = .ok entries :=
    ⟨_, wellFormed.list_eq_ok_iff.mpr ⟨by decide +kernel, rfl⟩⟩
  obtain ⟨found, ends, run, rest⟩ :=
    EmbeddedSource.scan_finds_sought wellFormed listable .page "tera"
  have here : (scan sections.toSource "//v/" .page "tera").run.1.toOption =
      some ["v/a/b/c.tera", "v/a/z.tera", "v/a.x.tera"] := by decide +kernel
  rw [run] at here
  exact ⟨wellFormed, found, Option.some.inj here, ends, run, rest⟩

end ViewWeave
