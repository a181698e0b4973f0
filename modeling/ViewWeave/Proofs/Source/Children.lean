import ViewWeave.Proofs.Source.Orderly
import ViewWeave.Proofs.Data.Table

/-!
# What an embedded source lists

The children of a directory are told from the stored paths alone: a child is what a path has as its
next part, and it is a directory if the path goes on after it or was declared. A path may be both a
file and a directory: the flag does not depend on which path shows the child last (`Regular`), and
the file cannot be listed. In a well-formed source there is no such path, and every directory can be
listed.
-/

namespace ViewWeave.EmbeddedSource

/-! ## One path -/

section
variable {d q : String}

def startOf (dir : List Char) : List Char := if dir.isEmpty then [] else dir ++ ['/']

theorem startOf_empty : startOf "".toList = [] := rfl

theorem startOf_of_ne_empty (hd : d ≠ "") : startOf d.toList = d.toList ++ ['/'] := by
  unfold startOf
  rw [if_neg (by simpa using hd)]

theorem parts_of_dropStart? {r : List Char} (hr : r ≠ [])
    (h : Text.dropStart? (startOf d.toList) q.toList = some r) :
    pathParts q = pathParts d ++ (Text.splitAt '/' r).map String.ofList := by
  rw [Text.dropStart?_eq_some_iff] at h
  by_cases hd : d = ""
  · subst hd
    rw [startOf_empty, List.nil_append] at h
    subst h
    exact pathParts_of_ne_empty (by simpa using hr)
  · rw [startOf_of_ne_empty hd, List.append_assoc] at h
    exact pathParts_append hd h

/-- What a stored path shows of a directory is told from the path's part below the directory. -/
theorem child?_eq_some_iff_exists {isDir : Bool} {k : String} {b : Bool} :
    child? d.toList q isDir = some (k, b) ↔ ∃ r, r ≠ [] ∧
      Text.dropStart? (startOf d.toList) q.toList = some r ∧
      ((∃ n rest, Text.splitOnce? '/' r = some (n, rest) ∧
        String.ofList (childPath d.toList n) = k ∧ true = b) ∨
        Text.splitOnce? '/' r = none ∧ q = k ∧ isDir = b) := by
  unfold child?
  dsimp only
  rw [show (if d.toList.isEmpty then [] else d.toList ++ ['/']) = startOf d.toList from rfl]
  cases Text.dropStart? (startOf d.toList) q.toList with
  | none => simp
  | some r =>
    cases r with
    | nil => simp
    | cons c r =>
      have only : ∀ P : List Char → Prop,
          (∃ s, s ≠ [] ∧ some (c :: r) = some s ∧ P s) ↔ P (c :: r) := by simp
      rw [only]
      dsimp only
      cases Text.splitOnce? '/' (c :: r) with
      | none => simp
      | some cut => simp [Prod.ext_iff]

variable (clean : ∀ n ∈ pathParts q, n ≠ "") {isDir : Bool}
include clean

theorem parts_of_child? {k : String} {b : Bool} (h : child? d.toList q isDir = some (k, b)) :
    ∃ n rest, pathParts q = pathParts d ++ n :: rest ∧ k = childOf d n ∧
      b = (isDir || !rest.isEmpty) := by
  obtain ⟨r, hr, hs, shown⟩ := child?_eq_some_iff_exists.mp h
  have parts := parts_of_dropStart? hr hs
  rw [Text.splitAt_eq_splitOnce?] at parts
  rcases shown with ⟨n, rest, ho, rfl, rfl⟩ | ⟨ho, rfl, rfl⟩
  · rw [ho] at parts
    refine ⟨String.ofList n, _, parts, ?_, by simp [Text.splitAt_ne_nil]⟩
    unfold childOf
    rw [String.toList_ofList]
  · rw [ho] at parts
    have member : String.ofList r ∈ pathParts q := by
      rw [parts]
      exact List.mem_append_right _ (List.mem_singleton_self _)
    refine ⟨String.ofList r, [], parts, pathParts_injective ?_, by simp⟩
    rw [pathParts_childOf d ⟨clean _ member, noSlash_of_mem_pathParts member⟩]
    exact parts

theorem child?_of_parts {n : String} {rest : List String}
    (parts : pathParts q = pathParts d ++ n :: rest) :
    child? d.toList q isDir = some (childOf d n, isDir || !rest.isEmpty) := by
  have below : ∃ r, r ≠ [] ∧ Text.dropStart? (startOf d.toList) q.toList = some r := by
    by_cases hd : d = ""
    · subst hd
      refine ⟨q.toList, ?_, rfl⟩
      rintro empty
      rw [String.toList_eq_nil_iff.mp empty] at parts
      exact absurd parts (by simp [pathParts])
    · obtain ⟨r, spelled⟩ := (below_iff.mpr ⟨n :: rest, List.cons_ne_nil _ _, parts⟩).spelled hd
      refine ⟨r, ?_, ?_⟩
      · -- with a slash at its end the path would have an empty part
        rintro rfl
        exact clean "" (by rw [pathParts_append hd spelled]; simp [Text.splitAt]) rfl
      · rw [startOf_of_ne_empty hd, Text.dropStart?_eq_some_iff, List.append_assoc]
        exact spelled
  obtain ⟨r, hr, hs⟩ := below
  obtain ⟨k, b, shown⟩ : ∃ k b, child? d.toList q isDir = some (k, b) := by
    cases ho : Text.splitOnce? '/' r with
    | some cut =>
      exact ⟨_, _, child?_eq_some_iff_exists.mpr ⟨r, hr, hs, .inl ⟨cut.1, cut.2, ho, rfl, rfl⟩⟩⟩
    | none => exact ⟨_, _, child?_eq_some_iff_exists.mpr ⟨r, hr, hs, .inr ⟨ho, rfl, rfl⟩⟩⟩
  obtain ⟨n', rest', parts', path, flag⟩ := parts_of_child? clean shown
  cases List.append_cancel_left (parts.symm.trans parts')
  rw [shown, path, flag]

end

/-! ## Paths -/

variable {s : EmbeddedSource}

def stored (s : EmbeddedSource) : List String := s.files.map (·.1)

def paths (s : EmbeddedSource) : List String := s.stored ++ s.dirs

/-- A path is a directory if it is declared or something lies below it. -/
def IsDir (s : EmbeddedSource) (path : String) : Prop := path ∈ s.dirs ∨ ∃ q ∈ s.paths, Below path q

instance (s : EmbeddedSource) (path : String) : Decidable (s.IsDir path) :=
  inferInstanceAs (Decidable (_ ∨ _))

/-- A path is that of a file or a declared directory, or leads to one. -/
def Has (s : EmbeddedSource) (path : String) : Prop := ∃ q ∈ s.paths, pathParts path <+: pathParts q

def entry (s : EmbeddedSource) (path : String) : Entry := ⟨path, decide (s.IsDir path)⟩

theorem entry_isDir {path : String} : (s.entry path).isDir ↔ s.IsDir path := decide_eq_true_iff

theorem IsDir.has {path : String} (h : s.IsDir path) : s.Has path := by
  rcases h with declared | ⟨q, hq, inside, -⟩
  · exact ⟨path, List.mem_append_right _ declared, List.prefix_rfl⟩
  · exact ⟨q, hq, inside⟩

theorem file_of_has {k : String} (hk : s.Has k) (hd : ¬s.IsDir k) : k ∈ s.stored := by
  obtain ⟨q, hq, inside⟩ := hk
  have same : k = q := Classical.byContradiction fun apart => hd (.inr ⟨q, hq, inside, apart⟩)
  subst same
  exact (List.mem_append.mp hq).resolve_right fun declared => hd (.inl declared)

/-! ## What is shown of a directory -/

def shown (s : EmbeddedSource) (dir : List Char) : List (String × Bool) :=
  s.files.filterMap (fun (p, _) => child? dir p false) ++
    s.dirs.filterMap (fun p => child? dir p true)

theorem children_eq_ofList (dir : List Char) : s.children dir = Sorted.ofList (s.shown dir) := rfl

theorem mem_shown {dir k : String} {b : Bool} : (k, b) ∈ s.shown dir.toList ↔
    (∃ q ∈ s.stored, child? dir.toList q false = some (k, b)) ∨
      ∃ q ∈ s.dirs, child? dir.toList q true = some (k, b) := by
  unfold shown stored
  simp [List.mem_filterMap]

section
variable (named : ∀ p ∈ s.paths, ∀ n ∈ pathParts p, n ≠ "") {dir k : String}
include named

theorem name_of_parts {q : String} (hq : q ∈ s.paths) {n : String} {rest : List String}
    (parts : pathParts q = pathParts dir ++ n :: rest) : n ≠ "" ∧ '/' ∉ n.toList := by
  have member : n ∈ pathParts q := by
    rw [parts]
    exact List.mem_append_right _ (List.mem_cons_self ..)
  exact ⟨named q hq n member, noSlash_of_mem_pathParts member⟩

theorem child_of_shown {q : String} (hq : q ∈ s.paths) {isDir b : Bool}
    (shows : child? dir.toList q isDir = some (k, b)) :
    ∃ n rest, (n ≠ "" ∧ '/' ∉ n.toList) ∧ k = childOf dir n ∧ pathParts q = pathParts k ++ rest ∧
      b = (isDir || !rest.isEmpty) := by
  obtain ⟨n, rest, parts, rfl, flag⟩ := parts_of_child? (named q hq) shows
  have name := name_of_parts named hq parts
  refine ⟨n, rest, name, rfl, ?_, flag⟩
  rw [pathParts_childOf dir name, parts, List.append_assoc, List.singleton_append]

theorem shown_of_child {q : String} (hq : q ∈ s.paths) {n : String} (name : n ≠ "" ∧ '/' ∉ n.toList)
    {rest : List String} (parts : pathParts q = pathParts (childOf dir n) ++ rest) (isDir : Bool) :
    child? dir.toList q isDir = some (childOf dir n, isDir || !rest.isEmpty) := by
  refine child?_of_parts (named q hq) ?_
  rw [parts, pathParts_childOf dir name, List.append_assoc, List.singleton_append]

theorem exists_shown_iff : (∃ b, (k, b) ∈ s.shown dir.toList) ↔
    ∃ n, (n ≠ "" ∧ '/' ∉ n.toList) ∧ k = childOf dir n ∧ s.Has k := by
  simp only [mem_shown]
  constructor
  · rintro ⟨b, ⟨q, hq, shows⟩ | ⟨q, hq, shows⟩⟩
    · have path : q ∈ s.paths := List.mem_append_left _ hq
      obtain ⟨n, rest, name, child, parts, -⟩ := child_of_shown named path shows
      exact ⟨n, name, child, q, path, rest, parts.symm⟩
    · have path : q ∈ s.paths := List.mem_append_right _ hq
      obtain ⟨n, rest, name, child, parts, -⟩ := child_of_shown named path shows
      exact ⟨n, name, child, q, path, rest, parts.symm⟩
  · rintro ⟨n, name, rfl, q, hq, rest, parts⟩
    have shows := shown_of_child named hq name parts.symm
    rcases List.mem_append.mp hq with file | declared
    · exact ⟨_, .inl ⟨q, file, shows false⟩⟩
    · exact ⟨_, .inr ⟨q, declared, shows true⟩⟩

theorem shown_true_iff : (k, true) ∈ s.shown dir.toList ↔
    ∃ n, (n ≠ "" ∧ '/' ∉ n.toList) ∧ k = childOf dir n ∧ s.IsDir k := by
  rw [mem_shown]
  constructor
  · rintro (⟨q, hq, shows⟩ | ⟨q, hq, shows⟩)
    · have path : q ∈ s.paths := List.mem_append_left _ hq
      obtain ⟨n, rest, name, child, parts, flag⟩ := child_of_shown named path shows
      refine ⟨n, name, child, .inr ⟨q, path, below_iff.mpr ⟨rest, ?_, parts⟩⟩⟩
      simpa using flag
    · have path : q ∈ s.paths := List.mem_append_right _ hq
      obtain ⟨n, rest, name, child, parts, -⟩ := child_of_shown named path shows
      refine ⟨n, name, child, ?_⟩
      by_cases further : rest = []
      · rw [further, List.append_nil] at parts
        exact .inl (pathParts_injective parts ▸ hq)
      · exact .inr ⟨q, path, below_iff.mpr ⟨rest, further, parts⟩⟩
  · rintro ⟨n, name, rfl, declared | ⟨q, hq, below⟩⟩
    · have path : childOf dir n ∈ s.paths := List.mem_append_right _ declared
      exact .inr ⟨_, declared, shown_of_child named path name (List.append_nil _).symm true⟩
    · obtain ⟨rest, further, parts⟩ := below_iff.mp below
      have shows := shown_of_child named hq name parts
      have longer : rest.isEmpty = false := by simpa using further
      rcases List.mem_append.mp hq with file | declared
      · exact .inl ⟨q, file, by simpa [longer] using shows false⟩
      · exact .inr ⟨q, declared, by simpa using shows true⟩

theorem file_of_shown_false (shows : (k, false) ∈ s.shown dir.toList) : k ∈ s.stored := by
  rcases mem_shown.mp shows with ⟨q, hq, shows⟩ | ⟨q, hq, shows⟩
  · obtain ⟨n, rest, -, -, parts, flag⟩ := child_of_shown named (List.mem_append_left _ hq) shows
    have last : rest = [] := by simpa using flag.symm
    rw [last, List.append_nil] at parts
    exact pathParts_injective parts ▸ hq
  · obtain ⟨n, rest, -, -, -, flag⟩ := child_of_shown named (List.mem_append_right _ hq) shows
    simp at flag

end

/-! ## Regular sources -/

/-- Paths have no empty parts, and what was shown as a directory is not shown as a file after
that. -/
structure Regular (s : EmbeddedSource) : Prop where
  named : ∀ p ∈ s.paths, ∀ n ∈ pathParts p, n ≠ ""
  rising : ∀ dir : String, (s.shown dir.toList).Pairwise fun x y => x.1 = y.1 → x.2 → y.2

namespace Regular

variable (h : s.Regular)
include h

/-- The children of a directory are what its name can be followed by to lead somewhere. -/
theorem mem_children {dir k : String} {b : Bool} : (k, b) ∈ s.children dir.toList ↔
    ∃ n, (n ≠ "" ∧ '/' ∉ n.toList) ∧ k = childOf dir n ∧ s.Has k ∧ b = decide (s.IsDir k) := by
  rw [children_eq_ofList, Sorted.mem_ofList_of_rising (h.rising dir), exists_shown_iff h.named]
  have flag {n : String} (name : n ≠ "" ∧ '/' ∉ n.toList) (child : k = childOf dir n) :
      (k, true) ∈ s.shown dir.toList ↔ s.IsDir k := by
    rw [shown_true_iff h.named]
    exact ⟨fun ⟨_, _, _, hd⟩ => hd, fun hd => ⟨n, name, child, hd⟩⟩
  constructor
  · rintro ⟨⟨n, name, child, has⟩, rfl⟩
    exact ⟨n, name, child, has, decide_eq_decide.mpr (flag name child)⟩
  · rintro ⟨n, name, child, has, rfl⟩
    exact ⟨⟨n, name, child, has⟩, decide_eq_decide.mpr (flag name child).symm⟩

theorem exists_children_iff {dir : String} :
    s.children dir.toList ≠ [] ↔ ∃ q ∈ s.paths, Below dir q := by
  constructor
  · intro some
    obtain ⟨⟨k, b⟩, hk⟩ := List.exists_mem_of_ne_nil _ some
    obtain ⟨n, name, rfl, ⟨q, hq, rest, parts⟩, -⟩ := h.mem_children.mp hk
    refine ⟨q, hq, below_iff.mpr ⟨n :: rest, List.cons_ne_nil _ _, ?_⟩⟩
    rw [← parts, pathParts_childOf dir name, List.append_assoc, List.singleton_append]
  · rintro ⟨q, hq, below⟩
    obtain ⟨rest, further, parts⟩ := below_iff.mp below
    obtain ⟨n, rest, rfl⟩ := List.exists_cons_of_ne_nil further
    have name := name_of_parts h.named hq parts
    refine List.ne_nil_of_mem (h.mem_children.mpr ⟨n, name, rfl, ⟨q, hq, rest, ?_⟩, rfl⟩)
    rw [pathParts_childOf dir name, parts, List.append_assoc, List.singleton_append]

/-- A file is not listed, a directory is, and there is nothing else. -/
theorem list_eq (path : String) : s.list path =
    if trimmed path ∈ s.stored then .error ⟨.invalidInput, s!"{trimmed path} is not a directory"⟩
    else if s.IsDir (trimmed path) then
      .ok ((s.children (trimmed path).toList).map fun c => ⟨c.1, c.2⟩)
    else .error ⟨.notFound, s!"no embedded directory {trimmed path}"⟩ := by
  have file : (s.files.lookup (trimmed path)).isSome ↔ trimmed path ∈ s.stored :=
    Sorted.lookup_isSome_iff
  have empty : ((s.children (trimmed path).toList).isEmpty && !s.dirs.contains (trimmed path)) =
    true ↔
      ¬s.IsDir (trimmed path) := by
    unfold IsDir
    rw [← h.exists_children_iff]
    simp [and_comm]
  unfold list
  dsimp only
  simp only [file, empty]
  by_cases hd : s.IsDir (trimmed path)
  · simp [hd]
  · simp [hd]

theorem eq_of_list {path : String} {entries : List Entry} (hl : s.list path = .ok entries) :
    entries = (s.children (trimmed path).toList).map fun c => ⟨c.1, c.2⟩ := by
  rw [h.list_eq] at hl
  split at hl
  · cases hl
  split at hl
  · exact (Except.ok.inj hl).symm
  · cases hl

theorem mem_list {path : String} {entries : List Entry} (hl : s.list path = .ok entries)
    {e : Entry} :
    e ∈ entries ↔ ∃ n, (n ≠ "" ∧ '/' ∉ n.toList) ∧ e = s.entry (childOf (trimmed path) n) ∧
      s.Has e.path := by
  rw [h.eq_of_list hl, List.mem_map]
  constructor
  · rintro ⟨⟨k, b⟩, hk, rfl⟩
    obtain ⟨n, name, rfl, has, rfl⟩ := h.mem_children.mp hk
    exact ⟨n, name, rfl, has⟩
  · rintro ⟨n, name, rfl, has⟩
    exact ⟨_, h.mem_children.mpr ⟨n, name, rfl, has, rfl⟩, rfl⟩

theorem orderly : s.toSource.Orderly where
  child hl e he := by
    obtain ⟨n, name, rfl, -⟩ := (h.mem_list hl).mp he
    exact ⟨n, name, rfl⟩
  ascending hl := by
    rw [h.eq_of_list hl, List.pairwise_map]
    exact Sorted.ascending_ofList _

end Regular

/-! ## Well-formed sources -/

/-- The paths of a source make a tree: their parts are names, and no file is also a directory. -/
structure WellFormed (s : EmbeddedSource) : Prop where
  nonempty : ∀ p ∈ s.paths, p ≠ ""
  named : ∀ p ∈ s.paths, ∀ n ∈ pathParts p, n ≠ ""
  undeclared : ∀ f ∈ s.stored, f ∉ s.dirs
  leaf : ∀ f ∈ s.stored, ∀ p ∈ s.paths, ¬Below f p

instance (s : EmbeddedSource) : Decidable s.WellFormed :=
  decidable_of_iff (((∀ p ∈ s.paths, p ≠ "") ∧ ∀ p ∈ s.paths, ∀ n ∈ pathParts p, n ≠ "") ∧
    (∀ f ∈ s.stored, f ∉ s.dirs) ∧ ∀ f ∈ s.stored, ∀ p ∈ s.paths, ¬Below f p)
    ⟨fun h => ⟨h.1.1, h.1.2, h.2.1, h.2.2⟩, fun h => ⟨⟨h.nonempty, h.named⟩, h.undeclared, h.leaf⟩⟩

namespace WellFormed

variable (h : s.WellFormed)
include h

theorem not_isDir {f : String} (hf : f ∈ s.stored) : ¬s.IsDir f := by
  rintro (declared | ⟨q, hq, below⟩)
  · exact h.undeclared f hf declared
  · exact h.leaf f hf q hq below

theorem regular : s.Regular where
  named := h.named
  rising dir := by
    refine List.pairwise_of_forall_mem_list ?_
    rintro ⟨k, b⟩ hb ⟨l, c⟩ hc same marked
    obtain rfl : k = l := same
    cases c with
    | true => rfl
    | false =>
      -- what is shown as a file is stored, and no stored path is that of a directory
      obtain rfl : b = true := marked
      obtain ⟨n, name, child, hd⟩ := (shown_true_iff h.named).mp hb
      exact absurd hd (h.not_isDir (file_of_shown_false h.named hc))

/-- A path can be listed just if it leads to a directory. -/
theorem list_eq_ok_iff {path : String} {entries : List Entry} : s.list path = .ok entries ↔
    s.IsDir (trimmed path) ∧
      entries = (s.children (trimmed path).toList).map fun c => ⟨c.1, c.2⟩ := by
  rw [h.regular.list_eq]
  by_cases hd : s.IsDir (trimmed path)
  · rw [if_neg fun file => h.not_isDir file hd, if_pos hd, Except.ok.injEq]
    exact ⟨fun listed => ⟨hd, listed.symm⟩, fun listed => listed.2.symm⟩
  · refine iff_of_false (fun listed => ?_) fun listed => hd listed.1
    rw [if_neg hd] at listed
    split at listed <;> cases listed

theorem mem_list {path : String} {entries : List Entry} (hl : s.list path = .ok entries)
    {e : Entry} :
    e ∈ entries ↔ ∃ n, (n ≠ "" ∧ '/' ∉ n.toList) ∧ e = s.entry (childOf (trimmed path) n) ∧
      s.Has e.path :=
  h.regular.mem_list hl

theorem orderly : s.toSource.Orderly := h.regular.orderly

end WellFormed

end ViewWeave.EmbeddedSource
