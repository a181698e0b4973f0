import ViewWeave.Proofs.Compose.Entries
import ViewWeave.Proofs.View.ShortName

/-!
# How templates are named

A template is named by its layout's base name and by its page's path below the pages root, both
without the marker. The scanner reads the root without slashes around it, the names only without
slashes at its end; so a slash in front keeps the root in the names of all pages.
-/

namespace ViewWeave

/-! ## Scanned paths -/

namespace EmbeddedSource

variable {s : EmbeddedSource}

theorem child?_starts {dir : List Char} (hd : dir ≠ []) {path : String} {isDir : Bool}
    {child : String × Bool}
    (h : child? dir path isDir = some child) : ∃ r, child.1.toList = dir ++ '/' :: r := by
  unfold child? at h
  dsimp only at h
  rw [if_neg (by simpa using hd)] at h
  cases hs : Text.dropStart? (dir ++ ['/']) path.toList with
  | none =>
    rw [hs] at h
    cases h
  | some rest =>
    have below := Text.dropStart?_eq_some_iff.mp hs
    rw [hs] at h
    cases rest with
    | nil => cases h
    | cons x rest =>
      dsimp only at h
      cases hn : Text.splitOnce? '/' (x :: rest) with
      | none =>
        rw [hn] at h
        cases h
        exact ⟨x :: rest, by simpa using below⟩
      | some parts =>
        rw [hn] at h
        cases h
        exact ⟨parts.1, by simp [childPath, hd]⟩

theorem list_starts {path : String} {entries : List Entry} (h : s.list path = .ok entries)
    {e : Entry} (he : e ∈ entries) (hd : Text.trimOf '/' path.toList ≠ []) :
    ∃ r, e.path.toList = Text.trimOf '/' path.toList ++ '/' :: r := by
  have dir : (trimmed path).toList = Text.trimOf '/' path.toList := String.toList_ofList
  unfold list at h
  dsimp only at h
  split at h
  · cases h
  split at h
  · cases h
  cases h
  obtain ⟨child, hc, rfl⟩ := List.mem_map.mp he
  unfold children at hc
  rw [dir] at hc
  rcases List.mem_append.mp (Sorted.mem_of_mem_ofList hc) with hf | hf
  · obtain ⟨f, -, hf⟩ := List.mem_filterMap.mp hf
    exact child?_starts hd hf
  · obtain ⟨p, -, hp⟩ := List.mem_filterMap.mp hf
    exact child?_starts hd hp

/-- A path as the scanner reads it leads to this directory or to something below it. -/
def LeadsInto (dir : List Char) (path : String) : Prop :=
  Text.trimOf '/' path.toList = dir ∨ ∃ r, Text.trimOf '/' path.toList = dir ++ '/' :: r

theorem LeadsInto.starts {dir : List Char} {path : String} (h : LeadsInto dir path)
    {child : List Char}
    (hc : ∃ r, child = Text.trimOf '/' path.toList ++ '/' :: r) : ∃ r, child = dir ++ '/' :: r := by
  obtain ⟨r, rfl⟩ := hc
  rcases h with h | ⟨r', h⟩
  · exact ⟨r, by rw [h]⟩
  · exact ⟨r' ++ '/' :: r, by rw [h]; simp⟩

/-- Everything that is found under a directory starts with it, however the directory is spelled. -/
theorem found_starts {dir : List Char} (hd : dir ≠ []) (clean : Text.trimOf '/' dir = dir)
    (ext : String) :
    ∀ {n : Nat} {path : String}, LeadsInto dir path →
      ∀ x ∈ s.toSource.found ext n path, ∃ r, x.toList = dir ++ '/' :: r
  | 0, _, _, _, h => absurd h List.not_mem_nil
  | n + 1, path, inside, x, h => by
    have nonempty : Text.trimOf '/' path.toList ≠ [] := by
      rcases inside with same | ⟨r, below⟩
      · rwa [same]
      · simp [below]
    cases hl : s.toSource.list path with
    | error e =>
      rw [ViewSource.found_of_error hl] at h
      exact absurd h List.not_mem_nil
    | ok entries =>
      obtain ⟨e, he, hx⟩ := (ViewSource.mem_found_succ hl).mp h
      obtain ⟨r, child⟩ := inside.starts (list_starts hl he nonempty)
      by_cases isDir : e.isDir
      · rw [if_pos isDir] at hx
        refine found_starts hd clean ext ?_ x hx
        unfold LeadsInto
        rw [child]
        exact Text.trimOf_below hd clean r
      · rw [if_neg isDir] at hx
        rw [hx.1]
        exact ⟨r, child⟩

end EmbeddedSource

/-! ## Names -/

namespace ViewLayout

variable {v : ViewLayout}

def pagesDir (v : ViewLayout) : String := EmbeddedSource.trimmed v.pagesRoot

theorem toList_pagesDir (v : ViewLayout) : v.pagesDir.toList = Text.trimOf '/' v.pagesRoot.toList :=
  String.toList_ofList

theorem toList_root_page (v : ViewLayout) :
    (v.root .page).toList = Text.trimEndOf '/' v.pagesRoot.toList :=
  String.toList_ofList

theorem rootPath_page (v : ViewLayout) : v.rootPath .page = v.pagesDir := by
  unfold rootPath pagesDir EmbeddedSource.trimmed
  rw [toList_root_page, Text.trimOf_trimEndOf]

theorem trimOf_pagesDir (v : ViewLayout) :
    Text.trimOf '/' v.pagesDir.toList = v.pagesDir.toList := by
  rw [toList_pagesDir, Text.trimOf_trimOf]

/-- The names of pages keep their whole paths: the root is spelled with a slash in front of it. -/
def KeepsRoot (v : ViewLayout) : Prop := v.pagesDir ≠ "" ∧ v.pagesRoot.toList.head? = some '/'

theorem belowPages_of_keepsRoot (h : v.KeepsRoot) {path : String} {r : List Char}
    (below : path.toList = v.pagesDir.toList ++ '/' :: r) : v.belowPages path = path.toList := by
  obtain ⟨hd, front⟩ := h
  have nonempty : v.pagesDir.toList ≠ [] := by simpa using hd
  have first : path.toList.head? ≠ some '/' := by
    rw [below, List.head?_append_of_ne_nil _ nonempty, toList_pagesDir]
    exact Text.head?_trimOf _
  have root : ∃ u, (v.root .page).toList = '/' :: u := by
    rw [toList_root_page]
    rw [toList_pagesDir, ← Text.trimOf_trimEndOf] at nonempty
    cases hs : v.pagesRoot.toList with
    | nil => simp [hs] at front
    | cons x s =>
      rw [hs] at front nonempty
      cases front
      by_cases hn : Text.trimEndOf '/' s = []
      · rw [Text.trimEndOf_cons_of_nil hn, if_pos rfl] at nonempty
        exact absurd rfl nonempty
      · exact ⟨_, Text.trimEndOf_cons_of_ne_nil hn '/'⟩
  obtain ⟨u, hu⟩ := root
  refine RestOf.belowPages (.elsewhere path (.inr fun rest spelled => first ?_))
  simp [spelled, hu]

theorem belowPages_of_not_keepsRoot (h : ¬v.KeepsRoot) {path : String} {r : List Char}
    (hd : v.pagesDir ≠ "")
    (below : path.toList = v.pagesDir.toList ++ '/' :: r) : v.belowPages path = r := by
  have front : v.pagesRoot.toList.head? ≠ some '/' := fun front => h ⟨hd, front⟩
  have root : v.root .page = v.pagesDir := by
    rw [← String.toList_inj, toList_root_page, toList_pagesDir, Text.trimOf_of_head front]
  have spelled : path = v.root .page ++ "/" ++ String.ofList r := by
    rw [← String.toList_inj, root]
    simp [below]
  have rest : RestOf (v.root .page) path (String.ofList r) := spelled ▸ .below _ (root ▸ hd)
  rw [rest.belowPages, String.toList_ofList]

theorem belowPages_of_empty (hd : v.pagesDir = "") (path : String) :
    v.belowPages path = path.toList := by
  have root : (v.root .page).toList = [] := by
    rw [toList_root_page]
    exact Text.trimEndOf_eq_nil (by rw [← toList_pagesDir, hd]; rfl)
  exact RestOf.belowPages (.elsewhere path (.inl (by simpa using root)))

end ViewLayout

section
variable {s : EmbeddedSource} {v : ViewLayout}

theorem page_starts (hd : v.pagesDir ≠ "") {path : String} (h : path ∈ files s.toSource v .page) :
    ∃ r, path.toList = v.pagesDir.toList ++ '/' :: r := by
  have nonempty : v.pagesDir.toList ≠ [] := by simpa using hd
  refine EmbeddedSource.found_starts nonempty v.trimOf_pagesDir v.fragmentExtension (.inl ?_) path h
  rw [v.rootPath_page, v.trimOf_pagesDir]

/-- The template is named by the short name of its layout and the path of its page below the pages
directory, without the marker. -/
def NamedBelow (v : ViewLayout) (t : ComposedTemplate) : Prop :=
  ∃ layoutShort rel, v.layoutShort? t.layoutPath = some layoutShort ∧
    t.name.text = layoutShort ++ ":" ++ rel ∧
    t.pagePath = (if v.pagesDir = "" then "" else v.pagesDir ++ "/") ++ rel ++ v.nameMarker

/-- The template is named by the short name of its layout and the whole path of its page, without
the marker. -/
def NamedWhole (v : ViewLayout) (t : ComposedTemplate) : Prop :=
  ∃ layoutShort rel, v.layoutShort? t.layoutPath = some layoutShort ∧
    t.name.text = layoutShort ++ ":" ++ rel ∧
    t.pagePath = rel ++ v.nameMarker

theorem not_namedBelow_of_namedWhole (keeps : v.KeepsRoot) {t : ComposedTemplate}
    (whole : NamedWhole v t) :
    ¬NamedBelow v t := by
  rintro ⟨layoutShort, rel, layoutName, name, below⟩
  obtain ⟨layoutShort', rel', layoutName', name', path⟩ := whole
  cases layoutName.symm.trans layoutName'
  have same : rel'.toList = rel.toList := by
    have names := congrArg String.toList (name'.symm.trans name)
    simpa using names
  rw [path, if_neg keeps.1] at below
  have lengths := congrArg (fun p : String => p.toList.length) below
  simp [same] at lengths
  omega

section
variable {order : WalkOrder} {helpers : Helpers} {r : Registry}
  (h : (compose order s.toSource v helpers).run.1 = .ok r)
  {t : ComposedTemplate} (ht : t ∈ r.toList)
include h ht

/-- What both rules have in common: the page's part of the name, and what it was cut from. -/
theorem exists_parts : t.pagePath ∈ files s.toSource v .page ∧ ∃ layoutShort rel,
    v.layoutShort? t.layoutPath = some layoutShort ∧ t.name.text = layoutShort ++ ":" ++ rel ∧
      v.belowPages t.pagePath = rel.toList ++ v.nameMarker.toList := by
  obtain ⟨l, hl, p, hp, rfl⟩ := (mem_toList h).mp ht
  obtain ⟨good, -⟩ := compose_ok h
  obtain ⟨layoutName, -⟩ := good.file (by decide) hl
  obtain ⟨pageName, -⟩ := good.file (by decide) hp
  exact ⟨hp, v.short .layout l, v.short .page p, layoutName, rfl,
    (ViewLayout.dropMarker?_eq_some_iff.mp pageName).1⟩

theorem namedBelow_of_not_keepsRoot (plain : ¬v.KeepsRoot) : NamedBelow v t := by
  obtain ⟨hp, layoutShort, rel, layoutName, name, stem⟩ := exists_parts h ht
  refine ⟨layoutShort, rel, layoutName, name, String.toList_inj.mp ?_⟩
  by_cases hd : v.pagesDir = ""
  · rw [ViewLayout.belowPages_of_empty hd] at stem
    simp [hd, stem]
  · obtain ⟨rest, starts⟩ := page_starts hd hp
    rw [ViewLayout.belowPages_of_not_keepsRoot plain hd starts] at stem
    simp [hd, starts, stem]

theorem namedWhole_of_keepsRoot (keeps : v.KeepsRoot) : NamedWhole v t := by
  obtain ⟨hp, layoutShort, rel, layoutName, name, stem⟩ := exists_parts h ht
  refine ⟨layoutShort, rel, layoutName, name, String.toList_inj.mp ?_⟩
  obtain ⟨rest, starts⟩ := page_starts keeps.1 hp
  rw [ViewLayout.belowPages_of_keepsRoot keeps starts] at stem
  simp [stem]

theorem namedBelow_iff : NamedBelow v t ↔ ¬v.KeepsRoot := by
  constructor
  · intro below keeps
    exact not_namedBelow_of_namedWhole keeps (namedWhole_of_keepsRoot h ht keeps) below
  · exact namedBelow_of_not_keepsRoot h ht

end

/-- **Names.** Templates are named by the paths of their pages below the pages directory just if the
root is not spelled with a slash in front of it; otherwise the names keep the whole paths. -/
theorem compose_names {order : WalkOrder} {helpers : Helpers} {r : Registry}
    (h : (compose order s.toSource v helpers).run.1 = .ok r) :
    ∀ t ∈ r.toList, (NamedBelow v t ↔ ¬v.KeepsRoot) ∧ (v.KeepsRoot → NamedWhole v t) :=
  fun _ ht => ⟨namedBelow_iff h ht, namedWhole_of_keepsRoot h ht⟩

end

def onePage : EmbeddedSource := .ofFiles [
  ("layouts/base.html.tera", "H"), ("pages/index.html.tera", "I"), ("shared/none.tera", "")]

theorem compose_names_onePage :
    ∃ r, (compose .lastFirst onePage.toSource .standard .empty).run.1 = .ok r ∧
    r.names = ["base:index"] ∧ ¬ViewLayout.standard.KeepsRoot ∧
      ∀ t ∈ r.toList, (NamedBelow .standard t ↔ ¬ViewLayout.standard.KeepsRoot) ∧
        (ViewLayout.standard.KeepsRoot → NamedWhole .standard t) := by
  have composed : (compose .lastFirst onePage.toSource .standard .empty).run.1 =
      .ok (registryOf .standard .empty (pairsOf onePage.toSource .standard)) :=
    compose_of_failures (by decide +kernel)
  refine ⟨_, composed, by decide +kernel, ?_, compose_names composed⟩
  rintro ⟨-, front⟩
  exact absurd front (by decide)

def slashedLayout : ViewLayout := { ViewLayout.standard with pagesRoot := "/pages" }

/-- The same tree under the same root, with a name that keeps the root. -/
theorem onePage_misnamed :
    ∃ r, (compose .lastFirst onePage.toSource slashedLayout .empty).run.1 = .ok r ∧
    slashedLayout.pagesDir = ViewLayout.standard.pagesDir ∧ r.names = ["base:pages/index"] ∧
      ∃ t ∈ r.toList, ¬NamedBelow slashedLayout t := by
  have composed : (compose .lastFirst onePage.toSource slashedLayout .empty).run.1 =
      .ok (registryOf slashedLayout .empty (pairsOf onePage.toSource slashedLayout)) :=
    compose_of_failures (by decide +kernel)
  have names : (registryOf slashedLayout .empty (pairsOf onePage.toSource slashedLayout)).names =
      ["base:pages/index"] := by decide +kernel
  have keeps : slashedLayout.KeepsRoot := ⟨by decide, by decide⟩
  obtain ⟨t, ht⟩ : ∃ t, t ∈
      (registryOf slashedLayout .empty (pairsOf onePage.toSource slashedLayout)).toList := by
    refine List.exists_mem_of_ne_nil _ fun none => ?_
    rw [Registry.toList, List.map_eq_nil_iff] at none
    rw [Registry.names, none] at names
    cases names
  refine ⟨_, composed, by decide, names, t, ht, ?_⟩
  rw [namedBelow_iff composed ht]
  exact fun plain => plain keeps

end ViewWeave
