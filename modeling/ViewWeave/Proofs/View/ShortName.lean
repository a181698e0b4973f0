import ViewWeave.Proofs.Text.Split
import ViewWeave.View.Layout

/-!
# Short names of files

The short name of a layout is its base name without the marker, that of a page its path below the
pages root without the marker. A path that is put together from a short name gives the short name
back, and a root that stops in the middle of a path's part is no root of the path.
-/

namespace ViewWeave

/-! ## Base names -/

theorem baseName_below {b : String} (h : '/' ∉ b.toList) (d : String) :
    baseName (d ++ "/" ++ b) = b := by
  unfold baseName
  rw [← String.toList_inj, String.toList_ofList]
  simpa using Text.afterLast_append h d.toList

namespace ViewLayout

variable {v : ViewLayout}

/-- What may be left of a name without the marker: something, and no directory. -/
def IsStem (s : String) : Prop := s ≠ "" ∧ s.toList.getLast? ≠ some '/'

theorem dropMarker?_eq_some_iff {name : List Char} {s : String} :
    v.dropMarker? name = some s ↔ name = s.toList ++ v.nameMarker.toList ∧ IsStem s := by
  have stem_iff (stem : List Char) : (stem.isEmpty || stem.getLast? == some '/') = false ↔
      IsStem (String.ofList stem) := by
    simp [IsStem]
  unfold dropMarker?
  cases hs : Text.dropEnd? v.nameMarker.toList name with
  | none =>
    refine iff_of_false (by simp) ?_
    rintro ⟨spelled, -⟩
    rw [Text.dropEnd?_eq_some_iff.mpr spelled] at hs
    cases hs
  | some stem =>
    have cut := Text.dropEnd?_eq_some_iff.mp hs
    dsimp only
    constructor
    · intro h
      split at h
      · cases h
      · rename_i kept
        cases h
        exact ⟨by simpa using cut, (stem_iff stem).mp (by simpa using kept)⟩
    · rintro ⟨spelled, isStem⟩
      have same : stem = s.toList := List.append_cancel_right (cut.symm.trans spelled)
      rw [same, if_neg]
      · simp
      · simpa [IsStem] using isStem

theorem layoutShort?_eq_some_iff {path s : String} :
    v.layoutShort? path = some s ↔ baseName path = s ++ v.nameMarker ∧ IsStem s := by
  unfold layoutShort?
  rw [dropMarker?_eq_some_iff, ← String.toList_inj, String.toList_append]

/-! ## Paths below the pages root -/

/-- What a path says below a root: what follows the root and a slash, or the whole path if it does
not start with them or if there is no root. -/
inductive RestOf (root : String) : String → String → Prop
  | below (rest : String) : root ≠ "" → RestOf root (root ++ "/" ++ rest) rest
  | elsewhere (path : String) : (root = "" ∨ ∀ rest, path ≠ root ++ "/" ++ rest) →
    RestOf root path path

theorem belowPages_eq (path : String) :
    RestOf (v.root .page) path (String.ofList (v.belowPages path)) := by
  unfold belowPages
  dsimp only
  split
  · rename_i none
    rw [String.ofList_toList]
    exact .elsewhere path (.inl (by simpa using none))
  · rename_i some
    cases hs : Text.dropStart? ((v.root .page).toList ++ ['/']) path.toList with
    | none =>
      rw [Option.getD_none, String.ofList_toList]
      refine .elsewhere path (.inr fun rest spelled => ?_)
      have cut : path.toList = (v.root .page).toList ++ ['/'] ++ rest.toList := by simp [spelled]
      rw [Text.dropStart?_eq_some_iff.mpr cut] at hs
      cases hs
    | some rest =>
      have spelled : path = v.root .page ++ "/" ++ String.ofList rest := by
        rw [← String.toList_inj, Text.dropStart?_eq_some_iff.mp hs]
        simp
      rw [Option.getD_some, spelled]
      exact .below _ (by simpa using some)

theorem RestOf.unique {root path rest rest' : String} (h : RestOf root path rest)
    (h' : RestOf root path rest') :
    rest = rest' := by
  cases h with
  | below rest some =>
    generalize spelled : root ++ "/" ++ rest = path at h'
    cases h' with
    | below rest' _ =>
      rw [← String.toList_inj] at spelled ⊢
      simpa using spelled
    | elsewhere _ apart =>
      rcases apart with none | apart
      · exact absurd none some
      · exact absurd spelled.symm (apart rest)
  | elsewhere path apart =>
    cases h' with
    | below rest' some =>
      rcases apart with none | apart
      · exact absurd none some
      · exact absurd rfl (apart rest')
    | elsewhere _ _ => rfl

theorem RestOf.belowPages {path rest : String} (h : RestOf (v.root .page) path rest) :
    v.belowPages path = rest.toList := by
  rw [h.unique (belowPages_eq path), String.toList_ofList]

theorem pageShort?_eq_some_iff {path rest s : String} (h : RestOf (v.root .page) path rest) :
    v.pageShort? path = some s ↔ rest = s ++ v.nameMarker ∧ IsStem s := by
  unfold pageShort?
  rw [dropMarker?_eq_some_iff, h.belowPages, ← String.toList_inj, String.toList_append]

theorem RestOf.of_partial {root tail : String} (h : tail.toList.head? ≠ some '/') :
    RestOf root (root ++ tail) (root ++ tail) := by
  refine .elsewhere _ (.inr fun rest spelled => h ?_)
  have lists := congrArg String.toList spelled
  rw [String.append_assoc, String.toList_append, String.toList_append, List.append_cancel_left_eq]
    at lists
  simp [lists]

/-! ## Roots -/

theorem root_spelled (v : ViewLayout) (role : Role) :
    (v.root role).toList.getLast? ≠ some '/' ∧
      ∃ n, (v.givenRoot role).toList = (v.root role).toList ++ List.replicate n '/' := by
  unfold root
  rw [String.toList_ofList]
  exact ⟨Text.getLast?_trimEndOf _, Text.exists_trimEndOf_append _⟩

/-- **Short names.** A layout has a short name just if its base name is the short name and the
marker, a page just if what its path says below the root is. So the path made from a short name has
that short name, and a root that ends in the middle of a part is never taken off. -/
theorem shortNames (v : ViewLayout) :
    ((v.root .page).toList.getLast? ≠ some '/' ∧
      ∃ n, v.pagesRoot.toList = (v.root .page).toList ++ List.replicate n '/') ∧
    (∀ path s, v.layoutShort? path = some s ↔ baseName path = s ++ v.nameMarker ∧ IsStem s) ∧
    (∀ path, ∃ rest, RestOf (v.root .page) path rest ∧
      ∀ s, v.pageShort? path = some s ↔ rest = s ++ v.nameMarker ∧ IsStem s) ∧
    (∀ s, IsStem s → v.root .page ≠ "" →
      v.pageShort? (v.root .page ++ "/" ++ s ++ v.nameMarker) = some s) ∧
    (∀ d s, IsStem s → '/' ∉ s.toList → '/' ∉ v.nameMarker.toList →
      v.layoutShort? (d ++ "/" ++ s ++ v.nameMarker) = some s) ∧
    ∀ tail s, tail.toList.head? ≠ some '/' → (v.pageShort? (v.root .page ++ tail) = some s ↔
      v.root .page ++ tail = s ++ v.nameMarker ∧ IsStem s) := by
  refine ⟨v.root_spelled .page, fun path s => layoutShort?_eq_some_iff, fun path => ?rest,
    fun s stem some => ?page,
    fun d s stem flat marker => ?layout, fun tail s apart =>
      pageShort?_eq_some_iff (.of_partial apart)⟩
  case rest =>
    exact ⟨_, belowPages_eq path, fun s => pageShort?_eq_some_iff (belowPages_eq path)⟩
  case page =>
    rw [String.append_assoc]
    exact (pageShort?_eq_some_iff (.below _ some)).mpr ⟨rfl, stem⟩
  case layout =>
    have plain : '/' ∉ (s ++ v.nameMarker).toList := by simp [flat, marker]
    rw [String.append_assoc]
    exact layoutShort?_eq_some_iff.mpr ⟨baseName_below plain d, stem⟩

def deepPages : ViewLayout := { standard with pagesRoot := "views/pages//" }

theorem shortNames_deepPages : IsStem "auth/login" ∧ IsStem "base" ∧
    deepPages.root .page = "views/pages" ∧
    deepPages.pageShort? "views/pages/auth/login.html.tera" = some "auth/login" ∧
    deepPages.layoutShort? "layouts/nested/base.html.tera" = some "base" ∧
    deepPages.pageShort? "views/pages2/x.html.tera" = some "views/pages2/x" := by
  obtain ⟨-, -, -, page, layout, apart⟩ := shortNames deepPages
  have root : deepPages.root .page = "views/pages" := by decide
  have login : IsStem "auth/login" := ⟨by decide, by decide⟩
  have base : IsStem "base" := ⟨by decide, by decide⟩
  refine ⟨login, base, root, ?_, ?_, ?_⟩
  · exact page "auth/login" login (by rw [root]; decide)
  · exact layout "layouts/nested" "base" base (by decide) (by decide)
  · refine (apart "2/x.html.tera" "views/pages2/x" (by decide)).mpr ⟨?_, by decide, by decide⟩
    rw [root]
    decide

end ViewLayout

end ViewWeave
