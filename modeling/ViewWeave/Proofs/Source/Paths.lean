import ViewWeave.Proofs.Source.ViewTree
import ViewWeave.Proofs.Text.ByteOrder
import ViewWeave.Source.Embedded
import ViewWeave.Source.FileTree

/-!
# Paths by their parts

What lies in a directory has the directory's parts and further ones. Paths are put in order part by
part, so everything in a directory stands between what comes before the directory and what comes
after it.
-/

namespace ViewWeave

open EmbeddedSource (trimmed)

variable {d x y : String}

/-! ## Parts -/

theorem pathParts_injective (h : pathParts x = pathParts y) : x = y := by
  rw [← pathText_pathParts x, h, pathText_pathParts]

theorem pathParts_of_ne_empty (h : x ≠ "") :
    pathParts x = (Text.splitAt '/' x.toList).map String.ofList := by
  unfold pathParts
  rw [if_neg (by simpa using h)]

theorem pathParts_ne_nil (h : x ≠ "") : pathParts x ≠ [] := by
  rw [pathParts_of_ne_empty h, Ne, List.map_eq_nil_iff]
  exact Text.splitAt_ne_nil _

theorem noSlash_of_mem_pathParts {n : String} (h : n ∈ pathParts x) : '/' ∉ n.toList := by
  unfold pathParts at h
  split at h
  · exact absurd h List.not_mem_nil
  · obtain ⟨w, hw, rfl⟩ := List.mem_map.mp h
    rw [String.toList_ofList]
    exact Text.not_mem_of_mem_splitAt hw

theorem length_pathParts_le (x : String) : (pathParts x).length ≤ x.length + 1 := by
  unfold pathParts
  split
  · exact Nat.zero_le _
  · rw [List.length_map, ← String.length_toList]
    exact Text.length_splitAt_le _

theorem pathParts_append (hd : d ≠ "") {r : List Char} (h : x.toList = d.toList ++ '/' :: r) :
    pathParts x = pathParts d ++ (Text.splitAt '/' r).map String.ofList := by
  have hx : x ≠ "" := by
    rintro rfl
    simp at h
  rw [pathParts_of_ne_empty hx, pathParts_of_ne_empty hd, h, Text.splitAt_append_cons,
    List.map_append]

def childOf (dir name : String) : String := String.ofList (childPath dir.toList name.toList)

theorem pathParts_childOf (dir : String) {n : String} (name : n ≠ "" ∧ '/' ∉ n.toList) :
    pathParts (childOf dir n) = pathParts dir ++ [n] := by
  have alone : (Text.splitAt '/' n.toList).map String.ofList = [n] := by
    rw [Text.splitAt_of_not_mem name.2]
    simp
  unfold childOf childPath
  by_cases hd : dir = ""
  · subst hd
    rw [String.toList_empty, List.isEmpty_nil, if_pos rfl, String.ofList_toList,
      pathParts_of_ne_empty name.1, alone]
    rfl
  · rw [if_neg (by simpa using hd), pathParts_append hd String.toList_ofList, alone]

theorem childOf_trimmed (h : trimmed d = d) {n : String} (name : n ≠ "" ∧ '/' ∉ n.toList) :
    trimmed (childOf d n) = childOf d n := by
  have ends : (childOf d n).toList.head? ≠ some '/' ∧ (childOf d n).toList.getLast? ≠ some '/' := by
    have first : n.toList.head? ≠ some '/' := fun hn => name.2 (List.mem_of_mem_head? hn)
    have last : n.toList.getLast? ≠ some '/' := fun hn => name.2 (List.mem_of_getLast? hn)
    have full : n.toList ≠ [] := by simpa using name.1
    unfold childOf childPath
    rw [String.toList_ofList]
    by_cases hd : d.toList.isEmpty
    · rw [if_pos hd]
      exact ⟨first, last⟩
    · rw [if_neg hd]
      have trim : d.toList.head? ≠ some '/' := by
        rw [← h]
        unfold trimmed
        rw [String.toList_ofList]
        exact Text.head?_trimOf _
      refine ⟨?_, ?_⟩
      · rwa [List.head?_append_of_ne_nil _ (by simpa using hd)]
      · rwa [List.getLast?_append_of_ne_nil _ (List.cons_ne_nil _ _),
          List.getLast?_cons_of_ne_nil full]
  unfold trimmed
  rw [Text.trimOf_of_ends ends.1 ends.2, String.ofList_toList]

theorem trimmed_of_named (h : ∀ n ∈ pathParts x, n ≠ "") : trimmed x = x := by
  have parts : ∀ w ∈ (pathParts x).map String.toList, w ≠ [] ∧ '/' ∉ w := by
    intro w hw
    obtain ⟨n, hn, rfl⟩ := List.mem_map.mp hw
    exact ⟨by simpa using h n hn, noSlash_of_mem_pathParts hn⟩
  have ends := Text.trimOf_intercalate parts
  rw [← toList_pathText, pathText_pathParts] at ends
  unfold trimmed
  rw [ends, String.ofList_toList]

/-! ## Directories -/

/-- A path lies below a directory: the directory's parts begin it, and it is not the directory
itself. -/
def Below (dir path : String) : Prop := pathParts dir <+: pathParts path ∧ dir ≠ path

instance (dir path : String) : Decidable (Below dir path) := inferInstanceAs (Decidable (_ ∧ _))

theorem below_iff : Below d x ↔ ∃ rest, rest ≠ [] ∧ pathParts x = pathParts d ++ rest := by
  constructor
  · rintro ⟨⟨rest, parts⟩, apart⟩
    refine ⟨rest, ?_, parts.symm⟩
    rintro rfl
    rw [List.append_nil] at parts
    exact apart (pathParts_injective parts)
  · rintro ⟨rest, further, parts⟩
    refine ⟨⟨rest, parts.symm⟩, ?_⟩
    rintro rfl
    exact further (List.append_cancel_left ((List.append_nil _).trans parts)|>.symm)

theorem below_childOf (dir : String) {n : String} (name : n ≠ "" ∧ '/' ∉ n.toList) :
    Below dir (childOf dir n) :=
  below_iff.mpr ⟨[n], List.cons_ne_nil _ _, pathParts_childOf dir name⟩

theorem Below.trans (hxy : Below d x) (hyz : Below x y) : Below d y := by
  obtain ⟨r, hr, parts⟩ := below_iff.mp hxy
  obtain ⟨r', -, parts'⟩ := below_iff.mp hyz
  refine below_iff.mpr ⟨r ++ r', by simp [hr], ?_⟩
  rw [parts', parts, List.append_assoc]

theorem Below.spelled (h : Below d x) (hd : d ≠ "") : ∃ r, x.toList = d.toList ++ '/' :: r := by
  obtain ⟨rest, further, parts⟩ := below_iff.mp h
  refine ⟨(pathText rest).toList, ?_⟩
  rw [← pathText_pathParts x, parts, toList_pathText_append (pathParts_ne_nil hd) further,
    pathText_pathParts]

/-! ## Order -/

def partBytes (path : String) : List Bytes := (pathParts path).map Text.utf8

/-- Paths ascend part by part, each part by its bytes. -/
def PartsAscend (paths : List String) : Prop := paths.Pairwise fun a b => partBytes a < partBytes b

theorem partBytes_lt {p : List String} {m n : String} (h : m < n) {r r' : List String}
    (hx : pathParts x = p ++ m :: r) (hy : pathParts y = p ++ n :: r') :
    partBytes x < partBytes y := by
  unfold partBytes
  rw [hx, hy, List.map_append, List.map_append]
  exact List.append_left_lt (List.cons_lt_cons_iff.mpr (.inl (Text.utf8_lt_utf8 h)))

theorem PartsAscend.nodup {paths : List String} (h : PartsAscend paths) : paths.Nodup := by
  refine h.imp fun {a b} less same => ?_
  subst same
  exact List.lt_irrefl _ less

theorem Below.not_lt (h : Below d x) : ¬x < d := by
  have start : d.toList <+: x.toList := by
    by_cases hd : d = ""
    · subst hd
      exact List.nil_prefix
    · obtain ⟨r, spelled⟩ := h.spelled hd
      exact ⟨'/' :: r, spelled.symm⟩
  rw [String.lt_iff]
  exact start.le

theorem childOf_lt (dir : String) {m n : String} (h : m < n) : childOf dir m < childOf dir n := by
  rw [String.lt_iff] at h ⊢
  unfold childOf
  rw [String.toList_ofList, String.toList_ofList]
  exact childPath_lt _ h

theorem lt_of_childOf_lt {dir m n : String} (h : childOf dir m < childOf dir n) : m < n := by
  rcases lt_trichotomy m n with less | rfl | greater
  · exact less
  · exact absurd h (String.lt_irrefl _)
  · exact absurd (String.lt_trans h (childOf_lt dir greater)) (String.lt_irrefl _)

end ViewWeave
