import ViewWeave.Proofs.Source.ViewTree
import ViewWeave.Proofs.Text.Decoding
import ViewWeave.Source.FileTree
import Mathlib.Data.List.Forall2
import Mathlib.Data.List.Nodup

/-!
# Trees on disk

A directory of a file system that holds a tree, and no links, shows the tree:
`FileTree.HoldsAt.shows`.
-/

namespace ViewWeave

def bytesOf (p : List String) : List Bytes := p.map Text.utf8

theorem bytesOf_concat (p : List String) (n : String) :
    bytesOf (p ++ [n]) = bytesOf p ++ [Text.utf8 n] := by
  simp [bytesOf]

theorem bytesOf_injective {p q : List String} (h : bytesOf p = bytesOf q) : p = q :=
  List.map_injective_iff.mpr (fun _ _ => Text.utf8_injective) h

theorem utf8_ne_dots {n : String} (h : IsPathName n) :
    Text.utf8 n ≠ dotName ∧ Text.utf8 n ≠ dotDotName := by
  refine ⟨fun hn => h.notHere (Text.utf8_injective ?_),
    fun hn => h.notAbove (Text.utf8_injective ?_)⟩
  · rw [hn]
    decide +kernel
  · rw [hn]
    decide +kernel

theorem zero_not_mem_utf8 {n : String} (h : '\x00' ∉ n.toList) : 0 ∉ Text.utf8 n := by
  rw [Text.utf8_eq_flatMap, List.mem_flatMap]
  rintro ⟨c, hc, hz⟩
  have positive : c.val.toNat ≠ 0 := by
    intro hv
    have nul : c = '\x00' := Char.toNat_inj.mp hv
    exact h (nul ▸ hc)
  have bound := Text.char_toNat_le c
  unfold String.utf8EncodeChar at hz
  generalize c.val.toNat = v at *
  dsimp only at hz
  -- no byte of any length of sequence is zero
  split_ifs at hz <;> simp only [List.mem_cons, List.not_mem_nil, or_false, ← UInt8.toNat_inj,
    UInt8.toNat_ofNat', UInt8.toNat_zero] at hz <;> omega

/-! ## Names in a directory -/

namespace FileTree

variable {fs : FileTree}

def nameIn? (place path : List Bytes) : Option Bytes :=
  if path.dropLast = place && !path.isEmpty then path.getLast? else none

theorem nameIn?_eq_some_iff {place path : List Bytes} {x : Bytes} :
    nameIn? place path = some x ↔ path = place ++ [x] := by
  unfold nameIn?
  constructor
  · intro hx
    split at hx
    · rename_i hp
      simp only [Bool.and_eq_true, decide_eq_true_eq] at hp
      rw [← hp.1]
      exact (List.dropLast_append_getLast? x hx).symm
    · cases hx
  · rintro rfl
    simp

/-- The names in the directory at a place are those of the items there, each once and in byte
order. -/
theorem namesIn_of_find (distinct : (fs.items.map (·.1)).Nodup) {names place : List Bytes}
    (hf : fs.find names = .ok place) (hd : fs.item? place = some .dir) :
    ∃ found, fs.namesIn names = .ok found ∧ found.Pairwise (· < ·) ∧
      ∀ x, x ∈ found ↔ place ++ [x] ∈ fs.items.map (·.1) := by
  let found := (fs.items.map (·.1)).filterMap (nameIn? place)
  let sorted := found.mergeSort fun a b => decide (a ≤ b)
  have listed : fs.namesIn names = .ok sorted := by
    unfold namesIn
    rw [hf]
    simp only [bind, Except.bind]
    rw [hd]
    simp only [sorted, found, List.filterMap_map]
    rfl
  have nodup : sorted.Nodup := by
    rw [(List.mergeSort_perm _ _).nodup_iff]
    refine List.Nodup.filterMap (fun a b x ha hb => ?_) distinct
    rw [nameIn?_eq_some_iff.mp ha, nameIn?_eq_some_iff.mp hb]
  have ascending : sorted.Pairwise (· ≤ ·) := by
    let order (a b : Bytes) : Bool := decide (a ≤ b)
    have trans (a b c : Bytes) (hab : order a b) (hbc : order b c) : order a c := by
      simpa [order] using List.le_trans (by simpa [order] using hab) (by simpa [order] using hbc)
    have total (a b : Bytes) : order a b || order b a := by
      simpa [order] using List.le_total a b
    simpa [order] using List.pairwise_mergeSort trans total found
  refine ⟨sorted, listed, (ascending.and nodup).imp fun {a b} both => ?_, fun x => ?_⟩
  · exact Std.lt_of_le_of_ne both.1 both.2
  · rw [List.mem_mergeSort, List.mem_filterMap]
    simp [nameIn?_eq_some_iff]

end FileTree

/-! ## Holding a tree -/

def ViewTree.items (t : ViewTree) : List (List Bytes × Item) :=
  t.files.map (fun f => (bytesOf f.1, .file (Text.utf8 f.2))) ++
    t.dirs.map fun p => (bytesOf p, .dir)

/-- A directory of a file system holds a tree: below it lies what lies below the top of the tree,
and nothing else. No links lead to the directory. -/
structure FileTree.HoldsAt (fs : FileTree) (top : List Bytes) (t : ViewTree) : Prop where
  names : ∀ n ∈ top, n ≠ dotName ∧ n ≠ dotDotName ∧ 0 ∉ n
  above : ∀ a b, top = a ++ b → fs.item? a = some .dir
  distinct : (fs.items.map (·.1)).Nodup
  below : ∀ q, q ≠ [] → ∀ i, (top ++ q, i) ∈ fs.items ↔ (q, i) ∈ t.items

theorem lookup_eq_some_iff_mem {α β : Type} [BEq α] [LawfulBEq α] {k : α} {v : β} :
    ∀ {l : List (α × β)}, (l.map (·.1)).Nodup → (l.lookup k = some v ↔ (k, v) ∈ l)
  | [], _ => by simp
  | (k', v') :: l, h => by
    obtain ⟨fresh, rest⟩ := List.nodup_cons.mp h
    have ih := lookup_eq_some_iff_mem (k := k) (v := v) rest
    rw [List.lookup_cons]
    by_cases hk : k = k'
    · subst hk
      have absent : (k, v) ∉ l := fun hm => fresh (List.mem_map.mpr ⟨(k, v), hm, rfl⟩)
      simp [absent, eq_comm]
    · rw [beq_eq_false_iff_ne.mpr hk]
      simp [hk, ih]

namespace FileTree.HoldsAt

variable {fs : FileTree} {top : List Bytes} {t : ViewTree} (h : fs.HoldsAt top t)
include h

theorem item?_below {q : List Bytes} (hq : q ≠ []) {i : Item} :
    fs.item? (top ++ q) = some i ↔ (q, i) ∈ t.items := by
  unfold item?
  rw [if_neg (by simp [hq]), lookup_eq_some_iff_mem h.distinct]
  exact h.below q hq i

theorem item?_dir {p : List String} (hp : t.IsDir p) : fs.item? (top ++ bytesOf p) = some .dir := by
  rcases hp with rfl | hp
  · exact h.above _ [] (by simp [bytesOf])
  · have hne : p ≠ [] := (t.named p (by simp [hp])).1
    rw [h.item?_below (by simpa [bytesOf] using hne)]
    simp only [ViewTree.items, List.mem_append, List.mem_map]
    exact .inr ⟨p, hp, rfl⟩

theorem item?_file {f : List String × String} (hf : f ∈ t.files) :
    fs.item? (top ++ bytesOf f.1) = some (.file (Text.utf8 f.2)) := by
  have hne : f.1 ≠ [] := (t.named f.1 (by simpa using .inl ⟨f.2, hf⟩)).1
  rw [h.item?_below (by simpa [bytesOf] using hne)]
  simp only [ViewTree.items, List.mem_append, List.mem_map]
  exact .inl ⟨f, hf, rfl⟩

theorem item?_none {p : List String} (hne : p ≠ []) (hp : p ∉ t.paths) :
    fs.item? (top ++ bytesOf p) = none := by
  rw [Option.eq_none_iff_forall_ne_some]
  intro i hi
  rw [h.item?_below (by simpa [bytesOf] using hne)] at hi
  simp only [ViewTree.items, List.mem_append, List.mem_map, Prod.mk.injEq] at hi
  rcases hi with ⟨f, hf, path, -⟩ | ⟨d, hd, path, -⟩
  · exact hp (bytesOf_injective path ▸ ViewTree.mem_paths_of_file hf)
  · exact hp (by simp [ViewTree.paths, ← bytesOf_injective path, hd])

/-! ## Following paths -/

theorem walk_top (links : Nat) (names : List Bytes) :
    fs.walk links [] (top ++ names) = fs.walk links top names := by
  suffices step : ∀ b a, top = a ++ b → fs.walk links a (b ++ names) = fs.walk links top names from
    step top [] rfl
  intro b
  induction b with
  | nil =>
    rintro a rfl
    simp
  | cons n b ih =>
    intro a ha
    have next : top = a ++ [n] ++ b := by simp [ha]
    obtain ⟨hd, hdd, -⟩ := h.names n (by simp [ha])
    rw [← ih (a ++ [n]) next, List.cons_append, FileTree.walk]
    simp [h.above a (n :: b) ha, hd, hdd, h.above (a ++ [n]) b next]

theorem item?_path {p : List String} (hp : p ∈ t.paths) :
    fs.item? (top ++ bytesOf p) = some .dir ∨
      ∃ c, fs.item? (top ++ bytesOf p) = some (.file c) := by
  rcases List.mem_append.mp hp with hf | hd
  · obtain ⟨f, hmem, rfl⟩ := List.mem_map.mp hf
    exact .inr ⟨_, h.item?_file hmem⟩
  · exact .inl (h.item?_dir (.inr hd))

theorem walk_into (links : Nat) {p : List String} {n : String} (hp : t.IsDir p) (hn : IsPathName n)
    (hin : p ++ [n] ∈ t.paths) (rest : List Bytes) :
    fs.walk links (top ++ bytesOf p) (Text.utf8 n :: rest) =
      fs.walk links (top ++ bytesOf (p ++ [n])) rest := by
  obtain ⟨hd, hdd⟩ := utf8_ne_dots hn
  have item := h.item?_path hin
  rw [bytesOf_concat] at item ⊢
  rw [FileTree.walk]
  rcases item with hi | ⟨c, hi⟩ <;> simp [h.item?_dir hp, hd, hdd, hi]

theorem walk_missing (links : Nat) {p : List String} {n : String} (hp : t.IsDir p)
    (hn : IsPathName n) (hout : p ++ [n] ∉ t.paths) (rest : List Bytes) :
    fs.walk links (top ++ bytesOf p) (Text.utf8 n :: rest) = .error .noEntry := by
  obtain ⟨hd, hdd⟩ := utf8_ne_dots hn
  have item := h.item?_none (by simp) hout
  rw [bytesOf_concat] at item
  rw [FileTree.walk]
  simp [h.item?_dir hp, hd, hdd, item]

theorem walk_file (links : Nat) {f : List String × String} (hf : f ∈ t.files) (name : Bytes)
    (rest : List Bytes) : fs.walk links (top ++ bytesOf f.1) (name :: rest) = .error .notDir := by
  rw [FileTree.walk]
  simp [h.item?_file hf]

/-- From a directory of the tree a path leads to what it leads to in the tree. -/
theorem walk_below (links : Nat) : ∀ {q p : List String}, t.IsDir p → IsPath q →
    q = [] ∨ p ++ q ∈ t.paths →
    fs.walk links (top ++ bytesOf p) (bytesOf q) = .ok (top ++ bytesOf (p ++ q))
  | [], p, _, _, _ => by
    rw [show bytesOf [] = [] from rfl, FileTree.walk, List.append_nil]
  | n :: q, p, hp, hq, hin => by
    have hn := hq n (by simp)
    have hin := hin.resolve_left (by simp)
    rw [show p ++ n :: q = p ++ [n] ++ q by simp] at hin ⊢
    by_cases hne : q = []
    · subst hne
      rw [List.append_nil] at hin ⊢
      rw [show bytesOf [n] = [Text.utf8 n] from rfl, h.walk_into links hp hn hin, FileTree.walk]
    · have dir := ViewTree.isDir_of_append hne hin
      rw [show bytesOf (n :: q) = Text.utf8 n :: bytesOf q from rfl,
        h.walk_into links hp hn (by simp [ViewTree.paths, dir.mem_dirs])]
      exact walk_below links dir (fun m hm => hq m (by simp [hm])) (.inr hin)

theorem walk_outside (links : Nat) : ∀ {q p : List String}, t.IsDir p → IsPath q → q ≠ [] →
    p ++ q ∉ t.paths →
    ∃ e, fs.walk links (top ++ bytesOf p) (bytesOf q) = .error e
  | [], _, _, _, hne, _ => absurd rfl hne
  | n :: q, p, hp, hq, _, hout => by
    have hn := hq n (by simp)
    rw [show p ++ n :: q = p ++ [n] ++ q by simp] at hout
    rw [show bytesOf (n :: q) = Text.utf8 n :: bytesOf q from rfl]
    by_cases hin : p ++ [n] ∈ t.paths
    · rw [h.walk_into links hp hn hin]
      have hne : q ≠ [] := by
        rintro rfl
        exact hout (by simpa using hin)
      rcases List.mem_append.mp hin with hf | hd
      · -- a path through a file ends there
        obtain ⟨f, hf, path⟩ := List.mem_map.mp hf
        obtain ⟨m, q, rfl⟩ := List.exists_cons_of_ne_nil hne
        rw [← path]
        exact ⟨_, h.walk_file links hf _ _⟩
      · exact walk_outside links (.inr hd) (fun m hm => hq m (by simp [hm])) hne hout
    · exact ⟨_, h.walk_missing links hp hn hin _⟩

theorem find_below {p : List String} (hp : p = [] ∨ p ∈ t.paths) :
    fs.find (top ++ bytesOf p) = .ok (top ++ bytesOf p) := by
  have path : IsPath p := by
    rcases hp with rfl | hp
    · exact fun n hn => absurd hn List.not_mem_nil
    · exact ViewTree.isPath hp
  have legal : ¬(top ++ bytesOf p).any (·.contains 0) := by
    simp only [List.any_eq_true, List.contains_iff_mem, not_exists, not_and]
    intro n hn
    rcases List.mem_append.mp hn with hn | hn
    · exact (h.names n hn).2.2
    · obtain ⟨m, hm, rfl⟩ := List.mem_map.mp hn
      rcases hp with rfl | hp
      · exact absurd hm List.not_mem_nil
      · exact zero_not_mem_utf8 ((t.named p hp).2 m hm).noNul
  unfold find
  rw [if_neg legal, h.walk_top]
  simpa [bytesOf] using h.walk_below maxLinks (p := []) (.inl rfl) path (by simpa using hp)

theorem find_outside {p : List String} (hp : IsPath p) (hne : p ≠ []) (hout : p ∉ t.paths) :
    ∃ e, fs.find (top ++ bytesOf p) = .error e := by
  unfold find
  split
  · exact ⟨_, rfl⟩
  · obtain ⟨e, he⟩ := h.walk_outside maxLinks (p := []) (.inl rfl) hp hne (by simpa using hout)
    refine ⟨e, ?_⟩
    rw [h.walk_top]
    simpa [bytesOf] using he

theorem readBytes_file {f : List String × String} (hf : f ∈ t.files) :
    fs.readBytes (top ++ bytesOf f.1) = .ok (Text.utf8 f.2) := by
  unfold readBytes
  rw [h.find_below (.inr (ViewTree.mem_paths_of_file hf))]
  simp only [bind, Except.bind]
  rw [h.item?_file hf]

/-! ## Listing -/

theorem mem_keys_iff {p : List String} {x : Bytes} :
    top ++ bytesOf p ++ [x] ∈ fs.items.map (·.1) ↔ ∃ n, x = Text.utf8 n ∧ p ++ [n] ∈ t.paths := by
  rw [List.append_assoc, List.mem_map]
  constructor
  · rintro ⟨⟨_, i⟩, hm, rfl⟩
    rw [h.below _ (by simp)] at hm
    have stored : ∃ q ∈ t.paths, bytesOf q = bytesOf p ++ [x] := by
      simp only [ViewTree.items, List.mem_append, List.mem_map, Prod.mk.injEq] at hm
      rcases hm with ⟨f, hf, path, -⟩ | ⟨d, hd, path, -⟩
      · exact ⟨f.1, ViewTree.mem_paths_of_file hf, path⟩
      · exact ⟨d, by simp [ViewTree.paths, hd], path⟩
    obtain ⟨q, hq, path⟩ := stored
    obtain ⟨a, b, rfl, ha, hb⟩ := List.map_eq_append_iff.mp path
    obtain ⟨n, rfl, rfl⟩ : ∃ n, b = [n] ∧ Text.utf8 n = x := by
      simpa [List.map_eq_singleton_iff] using hb
    exact ⟨n, rfl, bytesOf_injective ha ▸ hq⟩
  · rintro ⟨n, rfl, hp⟩
    rw [← bytesOf_concat]
    have stored : ∃ i, (bytesOf (p ++ [n]), i) ∈ t.items := by
      simp only [ViewTree.items, List.mem_append, List.mem_map]
      rcases List.mem_append.mp hp with hf | hd
      · obtain ⟨f, hf, path⟩ := List.mem_map.mp hf
        exact ⟨_, .inl ⟨f, hf, by rw [path]⟩⟩
      · exact ⟨_, .inr ⟨_, hd, rfl⟩⟩
    obtain ⟨i, hi⟩ := stored
    exact ⟨(_, i), (h.below _ (by simp [bytesOf]) i).mpr hi, rfl⟩

theorem namesIn_below {p : List String} (hp : t.IsDir p) : ∃ names : List String,
    fs.namesIn (top ++ bytesOf p) = .ok (names.map Text.utf8) ∧ names.Pairwise (· < ·) ∧
      ∀ n, n ∈ names ↔ p ++ [n] ∈ t.paths := by
  obtain ⟨sorted, listed, ascending, members⟩ := fs.namesIn_of_find h.distinct
    (h.find_below (hp.imp_right fun hd => by simp [ViewTree.paths, hd])) (h.item?_dir hp)
  have mem (x : Bytes) : x ∈ sorted ↔ ∃ n, x = Text.utf8 n ∧ p ++ [n] ∈ t.paths := by
    rw [members, h.mem_keys_iff]
  let names := sorted.map fun x => (Text.decode? x).getD ""
  have back : names.map Text.utf8 = sorted := by
    have each : ∀ x ∈ sorted, (Text.utf8 ∘ fun x => (Text.decode? x).getD "") x = id x := by
      intro x hx
      obtain ⟨n, rfl, -⟩ := (mem x).mp hx
      simp [Text.decode?_utf8]
    rw [List.map_map, List.map_congr_left each, List.map_id]
  refine ⟨names, by rw [back]; exact listed, ?_, fun n => ?_⟩
  · rw [← back, List.pairwise_map] at ascending
    exact ascending.imp Text.lt_of_utf8_lt
  · rw [← List.mem_map_of_injective (f := Text.utf8) fun _ _ => Text.utf8_injective, back, mem]
    constructor
    · rintro ⟨m, same, hm⟩
      exact Text.utf8_injective same ▸ hm
    · exact fun hn => ⟨n, rfl, hn⟩

end FileTree.HoldsAt

/-! ## The directory as a source -/

theorem mapM_ok_iff {α β ε : Type} {f : α → Except ε β} {xs : List α} {ys : List β} :
    xs.mapM f = .ok ys ↔ List.Forall₂ (fun x y => f x = .ok y) xs ys := by
  induction xs generalizing ys with
  | nil => cases ys <;> simp [pure, Except.pure]
  | cons x xs ih =>
    rw [List.mapM_cons]
    cases hx : f x with
    | error e => cases ys <;> simp [bind, Except.bind, hx]
    | ok y =>
      cases hxs : xs.mapM f with
      | error e => cases ys <;> simp [bind, Except.bind, ← ih, hx, hxs]
      | ok zs => cases ys <;> simp [bind, Except.bind, pure, Except.pure, ← ih, hx, hxs]

namespace FileTree.HoldsAt

variable {fs : FileTree} {top : List Bytes} {t : ViewTree} (h : fs.HoldsAt top t)

theorem resolve_pathText {p : List String} (hp : IsPath p) :
    DirSource.resolve ⟨fs, top⟩ (pathText p).toList = top ++ bytesOf p := by
  unfold DirSource.resolve
  refine congrArg (top ++ ·) ?_
  by_cases hne : p = []
  · subst hne
    simp [pathText_nil, Text.splitAt, bytesOf]
  · rw [hp.splitAt hne, List.filter_eq_self.mpr fun w hw => by simpa using (hp.parts w hw).1]
    simp [bytesOf, Function.comp_def]

include h

theorem entry_below {p : List String} {n : String} (hp : t.IsDir p) (hn : p ++ [n] ∈ t.paths) :
    DirSource.entry ⟨fs, top⟩ (pathText p).toList (Text.utf8 n) = .ok (t.entry (p ++ [n])) := by
  have place : top ++ bytesOf p ++ [Text.utf8 n] = top ++ bytesOf (p ++ [n]) := by
    rw [bytesOf_concat, List.append_assoc]
  have kind : (fs.item? (top ++ bytesOf (p ++ [n])) == some .dir) =
      decide (t.IsDir (p ++ [n])) := by
    by_cases hd : t.IsDir (p ++ [n])
    · simp [h.item?_dir hd, hd]
    · obtain ⟨f, hf, path⟩ := ViewTree.exists_file hn hd
      have item := h.item?_file hf
      rw [path] at item
      simp [item, hd]
  unfold DirSource.entry FileTree.isDirectory
  rw [Text.decode?_utf8]
  dsimp only
  rw [resolve_pathText hp.isPath, place, h.find_below (.inr hn)]
  show Except.ok (Entry.mk _ (fs.item? (top ++ bytesOf (p ++ [n])) == some .dir)) = _
  rw [kind, hp.isPath.childPath]
  simp [ViewTree.entry]

theorem list_below {p : List String} (hp : t.IsDir p) : ∃ entries,
    DirSource.list ⟨fs, top⟩ (pathText p) = .ok entries ∧
      entries.Pairwise (fun a b => a.path < b.path) ∧
      ∀ e, e ∈ entries ↔ ∃ q ∈ t.paths, q.dropLast = p ∧ e = t.entry q := by
  obtain ⟨names, listed, ascending, mem⟩ := h.namesIn_below hp
  refine ⟨names.map fun n => t.entry (p ++ [n]), ?_, ?_, fun e => ?_⟩
  · unfold DirSource.list
    rw [hp.isPath.trimOf]
    dsimp only
    rw [resolve_pathText hp.isPath, listed]
    show (names.map Text.utf8).mapM _ = _
    rw [List.mapM_map]
    refine mapM_ok_iff.mpr (List.forall₂_map_right_iff.mpr (List.forall₂_same.mpr fun n hn => ?_))
    exact h.entry_below hp ((mem n).mp hn)
  · rw [List.pairwise_map]
    exact ascending.imp fun hab => pathText_concat_lt hp.isPath hab
  · rw [List.mem_map]
    constructor
    · rintro ⟨n, hn, rfl⟩
      exact ⟨p ++ [n], (mem n).mp hn, by simp, rfl⟩
    · rintro ⟨q, hq, rfl, rfl⟩
      have last := List.dropLast_append_getLast (t.named q hq).1
      exact ⟨q.getLast (t.named q hq).1, (mem _).mpr (by rwa [last]), by rw [last]⟩

theorem list_outside {p : List String} (hp : IsPath p) (hd : ¬t.IsDir p) :
    ∃ e, DirSource.list ⟨fs, top⟩ (pathText p) = .error e := by
  have hne : p ≠ [] := fun hnil => hd (.inl hnil)
  have refused : ∃ e, fs.namesIn (top ++ bytesOf p) = .error e := by
    unfold FileTree.namesIn
    by_cases hin : p ∈ t.paths
    · obtain ⟨f, hf, rfl⟩ := ViewTree.exists_file hin hd
      refine ⟨.notDir, ?_⟩
      rw [h.find_below (.inr hin)]
      simp only [bind, Except.bind]
      rw [h.item?_file hf]
    · obtain ⟨e, he⟩ := h.find_outside hp hne hin
      exact ⟨e, by rw [he]; rfl⟩
  obtain ⟨e, he⟩ := refused
  refine ⟨e, ?_⟩
  unfold DirSource.list
  rw [hp.trimOf]
  dsimp only
  rw [resolve_pathText hp, he]
  rfl

theorem read_below {f : List String × String} (hf : f ∈ t.files) :
    DirSource.read ⟨fs, top⟩ (pathText f.1) = .ok f.2 := by
  unfold DirSource.read
  rw [resolve_pathText (ViewTree.isPath_file hf)]
  unfold FileTree.readText
  dsimp only
  rw [h.readBytes_file hf]
  simp only [bind, Except.bind]
  rw [Text.decode?_utf8]

theorem deep_below {p : List String} (hp : t.IsDir p) :
    p.length < (DirSource.toSource ⟨fs, top⟩).depth := by
  show p.length < (FileTree.maxLinks + 1) * (DirSource.longest ⟨fs, top⟩ + 2) + top.length
  have long : p.length ≤ DirSource.longest ⟨fs, top⟩ := by
    rcases hp with rfl | hd
    · exact Nat.zero_le _
    · have hne : p ≠ [] := (t.named p (by simp [hd])).1
      have stored : (top ++ bytesOf p, .dir) ∈ fs.items := by
        rw [h.below _ (by simpa [bytesOf] using hne)]
        simp only [ViewTree.items, List.mem_append, List.mem_map]
        exact .inr ⟨p, hd, rfl⟩
      have bound := (le_foldl_max (fs.items.map fun i => i.1.length) 0).2 _
        (List.mem_map_of_mem stored)
      have length : (top ++ bytesOf p).length = top.length + p.length := by simp [bytesOf]
      show _ ≤ (fs.items.map fun i => i.1.length).foldl max 0
      dsimp only at bound
      omega
  have levels : DirSource.longest ⟨fs, top⟩ <
      (FileTree.maxLinks + 1) * (DirSource.longest ⟨fs, top⟩ + 2) := by
    unfold FileTree.maxLinks
    omega
  omega

/-- **Trees on disk.** The directory that holds a tree shows it. -/
theorem shows : (DirSource.toSource ⟨fs, top⟩).Shows t where
  list := h.list_below
  refuse := h.list_outside
  read := h.read_below
  deep := h.deep_below

end FileTree.HoldsAt

def ViewTree.onDisk (t : ViewTree) : FileTree := { items := t.items }

theorem ViewTree.onDisk_holds (t : ViewTree) : t.onDisk.HoldsAt [] t where
  names := fun n hn => absurd hn List.not_mem_nil
  above a b hab := by
    rw [(List.append_eq_nil_iff.mp hab.symm).1]
    rfl
  distinct := by
    have keys : t.items.map (·.1) = t.paths.map bytesOf := by simp [items, paths, Function.comp_def]
    show (t.items.map (·.1)).Nodup
    rw [keys]
    exact t.distinct.map fun _ _ => bytesOf_injective
  below _ _ _ := Iff.rfl

theorem ViewTree.onDisk_inside_holds (t : ViewTree) {n : Bytes}
    (hn : n ≠ dotName ∧ n ≠ dotDotName ∧ 0 ∉ n) :
    (t.onDisk.inside n).HoldsAt [n] t where
  names := by simpa using hn
  above a b hab := by
    cases a with
    | nil => rfl
    | cons m a =>
      obtain ⟨rfl, rest⟩ := List.cons.inj hab
      rw [(List.append_eq_nil_iff.mp rest.symm).1]
      simp [FileTree.item?, FileTree.inside]
  distinct := by
    have keys : (t.onDisk.inside n).items.map (·.1) = [n] :: t.paths.map fun p =>
        n :: bytesOf p := by
      simp [FileTree.inside, onDisk, items, paths, Function.comp_def]
    rw [keys, List.nodup_cons]
    constructor
    · simp only [List.mem_map, List.cons.injEq, true_and, not_exists, not_and]
      intro p hp top
      have hne : p ≠ [] := (t.named p hp).1
      simp [bytesOf, hne] at top
    · exact t.distinct.map fun p q same => bytesOf_injective (List.cons.inj same).2
  below q hq i := by
    simp [FileTree.inside, onDisk, hq]

end ViewWeave
