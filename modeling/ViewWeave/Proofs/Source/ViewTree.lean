import ViewWeave.Proofs.Compose.Checks
import ViewWeave.Proofs.Text.Split

/-!
# View trees

A finite tree of directories and files, and what it takes of a view source to show it. Two sources
that show one tree list the same directories alike, so the same fragments are found in both.
-/

namespace ViewWeave

/-! ## Paths -/

def pathText (p : List String) : String :=
  String.ofList (List.intercalate ['/'] (p.map String.toList))

/-- A name that leads from a directory to something in it. -/
structure IsPathName (n : String) : Prop where
  nonempty : n ≠ ""
  noSlash : '/' ∉ n.toList
  notHere : n ≠ "."
  notAbove : n ≠ ".."

/-- A name that a file may have. -/
structure IsFileName (n : String) : Prop extends IsPathName n where
  noNul : '\x00' ∉ n.toList

instance (n : String) : Decidable (IsFileName n) :=
  decidable_of_iff ((n ≠ "" ∧ '/' ∉ n.toList) ∧ (n ≠ "." ∧ n ≠ "..") ∧ '\x00' ∉ n.toList)
    ⟨fun h => ⟨⟨h.1.1, h.1.2, h.2.1.1, h.2.1.2⟩, h.2.2⟩,
      fun h => ⟨⟨h.nonempty, h.noSlash⟩, ⟨h.notHere, h.notAbove⟩, h.noNul⟩⟩

def IsPath (p : List String) : Prop := ∀ n ∈ p, IsPathName n

section
variable {p q : List String}

theorem toList_pathText (p : List String) :
    (pathText p).toList = List.intercalate ['/'] (p.map String.toList) := by
  simp [pathText]

theorem IsPath.parts (h : IsPath p) : ∀ w ∈ p.map String.toList, w ≠ [] ∧ '/' ∉ w := by
  intro w hw
  obtain ⟨n, hn, rfl⟩ := List.mem_map.mp hw
  have name := h n hn
  exact ⟨by simpa using name.nonempty, name.noSlash⟩

theorem IsPath.of_append_left (h : IsPath (p ++ q)) : IsPath p := fun n hn => h n (by simp [hn])

theorem pathText_nil : pathText [] = "" := rfl

theorem IsPath.splitAt (h : IsPath p) (hne : p ≠ []) :
    Text.splitAt '/' (pathText p).toList = p.map String.toList := by
  rw [toList_pathText]
  exact Text.splitAt_intercalate (fun w hw => (h.parts w hw).2) (by simpa using hne)

theorem IsPath.trimOf (h : IsPath p) :
    Text.trimOf '/' (pathText p).toList = (pathText p).toList := by
  rw [toList_pathText]
  exact Text.trimOf_intercalate h.parts

theorem IsPath.isEmpty_iff (h : IsPath p) : (pathText p).toList = [] ↔ p = [] := by
  constructor
  · intro hp
    by_contra hne
    have split := h.splitAt hne
    rw [hp] at split
    cases p with
    | nil => exact hne rfl
    | cons n p =>
      have first : [] = n.toList := (List.cons.inj split).1
      exact (h.parts n.toList (by simp)).1 first.symm
  · rintro rfl
    rfl

theorem pathText_injective (hp : IsPath p) (hq : IsPath q) (h : pathText p = pathText q) :
    p = q := by
  have lists : (pathText p).toList = (pathText q).toList := by rw [h]
  by_cases hne : p = []
  · subst hne
    exact (hq.isEmpty_iff.mp lists.symm).symm
  · have hqe : q ≠ [] := fun he => hne (hp.isEmpty_iff.mp (lists.trans (hq.isEmpty_iff.mpr he)))
    have same := hp.splitAt hne
    rw [lists, hq.splitAt hqe] at same
    exact (List.map_injective_iff.mpr (fun _ _ => String.toList_injective) same).symm

theorem toList_pathText_append (hp : p ≠ []) (hq : q ≠ []) :
    (pathText (p ++ q)).toList = (pathText p).toList ++ '/' :: (pathText q).toList := by
  simp only [toList_pathText, List.map_append]
  exact Text.intercalate_append (by simpa using hp) (by simpa using hq)

theorem IsPath.childPath (h : IsPath p) (n : String) :
    childPath (pathText p).toList n.toList = (pathText (p ++ [n])).toList := by
  unfold ViewWeave.childPath
  by_cases hne : p = []
  · subst hne
    simp [pathText, List.intercalate]
  · have full : (pathText p).toList ≠ [] := mt h.isEmpty_iff.mp hne
    rw [if_neg (by simpa using full), toList_pathText_append hne (by simp)]
    simp [pathText, List.intercalate]

theorem IsPath.length_le (h : IsPath p) : p.length ≤ (pathText p).length := by
  have parts := Text.length_le_intercalate (c := '/') fun w hw => (h.parts w hw).1
  rwa [List.length_map, ← toList_pathText, String.length_toList] at parts

theorem childPath_lt (dir : List Char) {m n : List Char} (h : m < n) :
    ViewWeave.childPath dir m < ViewWeave.childPath dir n := by
  unfold ViewWeave.childPath
  split
  · exact h
  · exact List.append_left_lt (List.cons_lt_cons_iff.mpr (.inr ⟨rfl, h⟩))

theorem pathText_concat_lt (hp : IsPath p) {m n : String} (h : m < n) :
    pathText (p ++ [m]) < pathText (p ++ [n]) := by
  rw [String.lt_iff] at h ⊢
  rw [← hp.childPath, ← hp.childPath]
  exact childPath_lt _ h

def pathParts (s : String) : List String :=
  if s.isEmpty then [] else (Text.splitAt '/' s.toList).map String.ofList

theorem pathText_pathParts (s : String) : pathText (pathParts s) = s := by
  unfold pathParts
  split
  · rename_i hs
    simpa [pathText, List.intercalate] using hs.symm
  · unfold pathText
    rw [List.map_map, show (String.toList ∘ String.ofList) = id from funext fun w => by simp,
      List.map_id, Text.intercalate_splitAt]
    simp

end

/-! ## Trees -/

/-- A finite tree of directories and files. Every path is the list of the names that lead there, and
what lies at the end of the path without its last name is the top or another directory. -/
structure ViewTree where
  files : List (List String × String)
  /-- The directories below the top one. -/
  dirs : List (List String)
  named : ∀ p ∈ files.map (·.1) ++ dirs, p ≠ [] ∧ ∀ n ∈ p, IsFileName n
  distinct : (files.map (·.1) ++ dirs).Nodup
  rooted : ∀ p ∈ files.map (·.1) ++ dirs, p.dropLast = [] ∨ p.dropLast ∈ dirs

namespace ViewTree

variable (t : ViewTree)

def paths : List (List String) := t.files.map (·.1) ++ t.dirs

def IsDir (p : List String) : Prop := p = [] ∨ p ∈ t.dirs

instance (p : List String) : Decidable (t.IsDir p) := inferInstanceAs (Decidable (_ ∨ _))

def entry (p : List String) : Entry := ⟨pathText p, decide (t.IsDir p)⟩

variable {t}

theorem isPath {p : List String} (h : p ∈ t.paths) : IsPath p :=
  fun n hn => ((t.named p h).2 n hn).toIsPathName

theorem IsDir.isPath {p : List String} (h : t.IsDir p) : IsPath p := by
  rcases h with rfl | h
  · exact fun n hn => absurd hn List.not_mem_nil
  · exact ViewTree.isPath (t := t) (by simp [paths, h])

theorem IsDir.mem_dirs {p : List String} (h : t.IsDir p) (hne : p ≠ []) : p ∈ t.dirs :=
  h.resolve_left hne

theorem mem_paths_of_file {f : List String × String} (h : f ∈ t.files) : f.1 ∈ t.paths :=
  List.mem_append_left _ (List.mem_map_of_mem h)

theorem IsDir.mem_paths {p : List String} (h : t.IsDir p) (hne : p ≠ []) : p ∈ t.paths :=
  List.mem_append_right _ (h.mem_dirs hne)

theorem isPath_file {f : List String × String} (h : f ∈ t.files) : IsPath f.1 :=
  isPath (mem_paths_of_file h)

theorem isPath_dir {p : List String} (h : p ∈ t.dirs) : IsPath p := IsDir.isPath (.inr h)

theorem isDir_of_append {p : List String} : ∀ {q : List String}, q ≠ [] → p ++ q ∈ t.paths →
    t.IsDir p := by
  intro q hq h
  induction q using List.reverseRecOn with
  | nil => exact absurd rfl hq
  | append_singleton q n ih =>
    have parent := t.rooted _ h
    rw [← List.append_assoc, List.dropLast_concat] at parent
    by_cases hne : q = []
    · simpa [hne, IsDir] using parent
    · rcases parent with hnil | hdir
      · exact absurd (List.append_eq_nil_iff.mp hnil).2 hne
      · exact ih hne (by simp [paths, hdir])

theorem not_isDir_of_file {f : List String × String} (h : f ∈ t.files) : ¬t.IsDir f.1 := by
  have hmem : f.1 ∈ t.files.map (·.1) := List.mem_map_of_mem h
  rintro (hnil | hdir)
  · exact (t.named f.1 (by simp [hmem])).1 hnil
  · exact (List.nodup_append.mp t.distinct).2.2 _ hmem _ hdir rfl

theorem exists_file {p : List String} (h : p ∈ t.paths) (hd : ¬t.IsDir p) :
    ∃ f ∈ t.files, f.1 = p := by
  rcases List.mem_append.mp h with hf | hdir
  · exact List.mem_map.mp hf
  · exact absurd (.inr hdir) hd

end ViewTree

/-! ## Sources of trees -/

theorem le_foldl_max (l : List Nat) (n : Nat) : n ≤ l.foldl max n ∧ ∀ m ∈ l, m ≤ l.foldl max n := by
  induction l generalizing n with
  | nil => simp
  | cons k l ih =>
    obtain ⟨start, all⟩ := ih (max n k)
    rw [List.foldl_cons]
    refine ⟨by omega, fun m hm => ?_⟩
    rcases List.mem_cons.mp hm with rfl | hm
    · omega
    · exact all m hm

/-- A source shows a tree: it lists the directories of the tree and no other paths, each entry once
and in ascending order, and reads the files. -/
structure ViewSource.Shows (source : ViewSource) (t : ViewTree) : Prop where
  list : ∀ {p}, t.IsDir p → ∃ entries, source.list (pathText p) = .ok entries ∧
    entries.Pairwise (fun a b => a.path < b.path) ∧
    ∀ e, e ∈ entries ↔ ∃ q ∈ t.paths, q.dropLast = p ∧ e = t.entry q
  refuse : ∀ {p}, IsPath p → ¬t.IsDir p → ∃ e, source.list (pathText p) = .error e
  read : ∀ {f}, f ∈ t.files → source.read (pathText f.1) = .ok f.2
  deep : ∀ {p}, t.IsDir p → p.length < source.depth

namespace ViewSource.Shows

variable {a b : ViewSource} {t : ViewTree}

theorem list_eq (ha : a.Shows t) (hb : b.Shows t) {p : List String} (hp : t.IsDir p) :
    a.list (pathText p) = b.list (pathText p) := by
  obtain ⟨as, hla, sa, ma⟩ := ha.list hp
  obtain ⟨bs, hlb, sb, mb⟩ := hb.list hp
  have nodup {es : List Entry} (h : es.Pairwise fun a b => a.path < b.path) : es.Nodup := by
    refine h.imp fun {x y} hlt heq => ?_
    subst heq
    exact String.lt_irrefl _ hlt
  have perm : as.Perm bs :=
    (List.perm_ext_iff_of_nodup (nodup sa) (nodup sb)).mpr fun e => (ma e).trans (mb e).symm
  have same : as = bs := perm.eq_of_pairwise
    (fun x y _ _ hxy hyx => absurd (String.lt_trans hxy hyx) (String.lt_irrefl _)) sa sb
  rw [hla, hlb, same]

/-- An entry of a directory is a directory one level further down, or a file. -/
theorem entry_cases (ha : a.Shows t) {p : List String} (hp : t.IsDir p) {entries : List Entry}
    (hl : a.list (pathText p) = .ok entries) {e : Entry} (he : e ∈ entries) :
    (e.isDir ∧ ∃ q, t.IsDir q ∧ q.length = p.length + 1 ∧ e.path = pathText q) ∨
      ¬e.isDir ∧ ∃ f ∈ t.files, e.path = pathText f.1 := by
  obtain ⟨es, hl', -, members⟩ := ha.list hp
  cases hl.symm.trans hl'
  obtain ⟨q, hq, rfl, rfl⟩ := (members e).mp he
  by_cases hd : t.IsDir q
  · refine .inl ⟨decide_eq_true hd, q, hd, ?_, rfl⟩
    rw [List.length_dropLast, Nat.sub_add_cancel (List.length_pos_iff.mpr (t.named q hq).1)]
  · obtain ⟨f, hf, rfl⟩ := ViewTree.exists_file hq hd
    exact .inr ⟨by simp [ViewTree.entry, hd], f, hf, rfl⟩

theorem listFailures_eq_nil (ha : a.Shows t) : ∀ {n : Nat} {p : List String}, t.IsDir p →
    (∀ q, t.IsDir q → q.length < p.length + n) → a.listFailures n (pathText p) = []
  | 0, p, hp, hn => absurd (hn p hp) (Nat.lt_irrefl _)
  | n + 1, p, hp, hn => by
    obtain ⟨es, hl, -⟩ := ha.list hp
    rw [listFailures_of_ok hl]
    refine List.flatMap_eq_nil_iff.mpr fun e he => ?_
    unfold failuresAt
    rcases ha.entry_cases hp hl he with ⟨hd, q, hq, length, path⟩ | ⟨hd, -⟩
    · rw [if_pos hd, path]
      refine listFailures_eq_nil ha hq fun r hr => ?_
      have := hn r hr
      omega
    · rw [if_neg hd]

/-- The fragments under a directory are the same in two sources that show one tree. -/
theorem found_eq (ha : a.Shows t) (hb : b.Shows t) (ext : String) :
    ∀ {n m : Nat} {p : List String}, t.IsDir p → (∀ q, t.IsDir q → q.length < p.length + n) →
      (∀ q, t.IsDir q → q.length < p.length + m) →
      a.found ext n (pathText p) = b.found ext m (pathText p)
  | 0, _, p, hp, hn, _ => absurd (hn p hp) (Nat.lt_irrefl _)
  | _, 0, p, hp, _, hm => absurd (hm p hp) (Nat.lt_irrefl _)
  | n + 1, m + 1, p, hp, hn, hm => by
    obtain ⟨es, hl, -⟩ := ha.list hp
    rw [found_of_ok hl, found_of_ok (list_eq ha hb hp ▸ hl)]
    refine List.flatMap_congr fun e he => ?_
    unfold foundAt
    rcases ha.entry_cases hp hl he with ⟨hd, q, hq, length, path⟩ | ⟨hd, -⟩
    · rw [if_pos hd, if_pos hd, path]
      refine found_eq ha hb ext hq (fun r hr => ?_) fun r hr => ?_
      · have := hn r hr
        omega
      · have := hm r hr
        omega
    · rw [if_neg hd, if_neg hd]

theorem exists_file_of_found (ha : a.Shows t) (ext : String) :
    ∀ {n : Nat} {p : List String} {x : String},
    t.IsDir p → x ∈ a.found ext n (pathText p) → ∃ f ∈ t.files, x = pathText f.1
  | 0, _, _, _, hx => absurd hx List.not_mem_nil
  | n + 1, p, x, hp, hx => by
    obtain ⟨es, hl, -⟩ := ha.list hp
    obtain ⟨e, he, inside⟩ := (mem_found_succ hl).mp hx
    rcases ha.entry_cases hp hl he with ⟨hd, q, hq, -, path⟩ | ⟨hd, f, hf, path⟩
    · rw [if_pos hd, path] at inside
      exact exists_file_of_found ha ext hq inside
    · rw [if_neg hd] at inside
      exact ⟨f, hf, inside.1.trans path⟩

end ViewSource.Shows

end ViewWeave
