import ViewWeave.Proofs.Compose.Naming
import ViewWeave.Proofs.Compose.Scanning
import ViewWeave.Proofs.Compose.Sources

/-!
# Only fragments count

Composition sees of a source the fragments that the three scans find and what is read of these. So
what else a source holds, in files, in directories and in the order in which its files were given,
changes neither the registry, nor the failure, nor the log. Only the order of walks may change a
failure.
-/

namespace ViewWeave

/-- Two sources hold the same fragments: below each root, each path with the extension leads to the
same content in both or to no file in both. -/
def SameFragments (v : ViewLayout) (a b : EmbeddedSource) : Prop :=
  ∀ role path, Below (v.rootPath role) path → hasExtension path v.fragmentExtension →
    a.files.lookup path = b.files.lookup path

theorem sameFragments_iff {v : ViewLayout} {a b : EmbeddedSource} : SameFragments v a b ↔
    ∀ path ∈ a.stored ++ b.stored, ∀ role ∈ [Role.layout, .page, .shared],
      Below (v.rootPath role) path → hasExtension path v.fragmentExtension →
        a.files.lookup path = b.files.lookup path := by
  constructor
  · intro same path _ role _
    exact same role path
  · intro same role path below suffix
    -- a path of neither source leads to no file in both
    by_cases held : path ∈ a.stored ++ b.stored
    · exact same path held role (by cases role <;> decide) below suffix
    · rw [List.mem_append, not_or] at held
      rw [Sorted.lookup_eq_none_iff.mpr held.1, Sorted.lookup_eq_none_iff.mpr held.2]

instance (v : ViewLayout) (a b : EmbeddedSource) : Decidable (SameFragments v a b) :=
  decidable_of_iff _ sameFragments_iff.symm

section
variable {a b : EmbeddedSource} {v : ViewLayout}

theorem SameFragments.stored_iff (same : SameFragments v a b) {role : Role} {path : String}
    (below : Below (v.rootPath role) path) (suffix : hasExtension path v.fragmentExtension) :
    path ∈ a.stored ↔ path ∈ b.stored := by
  unfold EmbeddedSource.stored
  rw [← Sorted.lookup_isSome_iff, ← Sorted.lookup_isSome_iff, same role path below suffix]

theorem EmbeddedSource.WellFormed.read_eq (h : a.WellFormed) {path : String}
    (file : path ∈ a.stored) :
    ∃ content, a.files.lookup path = some content ∧ a.toSource.read path = .ok content := by
  obtain ⟨content, found⟩ := Option.isSome_iff_exists.mp (Sorted.lookup_isSome_iff.mpr file)
  refine ⟨content, found, ?_⟩
  show a.read path = _
  unfold EmbeddedSource.read
  rw [trimmed_of_named (h.named path (List.mem_append_left _ file)), found]

variable (ha : a.WellFormed) (hb : b.WellFormed)
  (la : ∀ role, ∃ entries, a.list (v.rootPath role) = .ok entries)
  (lb : ∀ role, ∃ entries, b.list (v.rootPath role) = .ok entries)
  (same : SameFragments v a b)
include ha hb la lb same

theorem found_eq_of_sameFragments (role : Role) :
    files a.toSource v role = files b.toSource v role := by
  have ascends (s : EmbeddedSource) (h : s.WellFormed) : PartsAscend (files s.toSource v role) :=
    h.orderly.found_ascends _ _
  refine (ascends a ha).eq_of_mem_iff (ascends b hb) fun x => ?_
  have inA := ha.mem_found_root_iff (la role) (Nat.le_refl _) v.fragmentExtension x
  have inB := hb.mem_found_root_iff (lb role) (Nat.le_refl _) v.fragmentExtension x
  refine inA.trans (Iff.trans ?_ inB.symm)
  exact ⟨fun h => ⟨(same.stored_iff h.2.1 h.2.2).mp h.1, h.2⟩,
    fun h => ⟨(same.stored_iff h.2.1 h.2.2).mpr h.1, h.2⟩⟩

theorem compose_eq_of_sameFragments (order : WalkOrder) (helpers : Helpers) :
    compose order a.toSource v helpers = compose order b.toSource v helpers := by
  refine compose_congr (fun role => ?found) (fun role x hx => ?reads) order helpers
  case found =>
    have inA : a.toSource.fragments (v.root role) v.fragmentExtension =
        .ok (files a.toSource v role) :=
      ha.fragmentsIn_eq_found (la role) (Nat.le_refl _) v.fragmentExtension
    have inB : b.toSource.fragments (v.root role) v.fragmentExtension =
        .ok (files b.toSource v role) :=
      hb.fragmentsIn_eq_found (lb role) (Nat.le_refl _) v.fragmentExtension
    rw [inA, inB, found_eq_of_sameFragments ha hb la lb same]
  case reads =>
    obtain ⟨file, below, suffix⟩ :=
      (ha.mem_found_root_iff (la role) (Nat.le_refl _) v.fragmentExtension x).mp hx
    obtain ⟨content, found, read⟩ := ha.read_eq file
    obtain ⟨content', found', read'⟩ := hb.read_eq ((same.stored_iff below suffix).mp file)
    rw [same role x below suffix, found'] at found
    cases found
    rw [read, read']

/-- **Fragments.** Of two well-formed sources in which the roots can be listed and which hold the
same fragments, composition logs the same and makes the same, up to the order of walks: where the
arguments of a call mix functions that are not bound, it is left to the orders which of them is
named. -/
theorem compose_sameFragments (o₁ o₂ : WalkOrder) (helpers : Helpers) :
    Build.Agree (InitError.SameButNamed b.toSource v helpers) (compose o₁ a.toSource v helpers)
      (compose o₂ b.toSource v helpers) := by
  rw [compose_eq_of_sameFragments ha hb la lb same]
  exact compose_orders b.toSource v helpers o₁ o₂

end

def cluttered : EmbeddedSource where
  files := [
    ("shared/none.tera", ""), ("pages/index.html.tera.bak", "\x7b\x7b"),
    ("pages/index.html.tera", "I"), ("pages/old/index.html", "\x7b%"),
    ("attic/index.html.tera", "\x7b#"), ("layouts/base.html.tera", "H")]
  dirs := ["pages/drafts", "layouts/none/here"]

theorem EmbeddedSource.WellFormed.listable {s : EmbeddedSource} (h : s.WellFormed)
    (dirs : ∀ role, s.IsDir (trimmed (ViewLayout.standard.rootPath role))) (role : Role) :
    ∃ entries, s.list (ViewLayout.standard.rootPath role) = .ok entries :=
  ⟨_, h.list_eq_ok_iff.mpr ⟨dirs role, rfl⟩⟩

theorem compose_sameFragments_cluttered : onePage.WellFormed ∧ cluttered.WellFormed ∧
    SameFragments .standard onePage cluttered ∧ onePage.list "pages" ≠ cluttered.list "pages" ∧
      Build.Agree (InitError.SameButNamed cluttered.toSource .standard .empty)
        (compose .lastFirst onePage.toSource .standard .empty)
        (compose .firstFirst cluttered.toSource .standard .empty) := by
  have tidy : onePage.WellFormed := by decide +kernel
  have wild : cluttered.WellFormed := by decide +kernel
  have same : SameFragments .standard onePage cluttered := by decide +kernel
  have inTidy := tidy.listable fun role => by cases role <;> decide +kernel
  have inWild := wild.listable fun role => by cases role <;> decide +kernel
  exact ⟨tidy, wild, same, by decide +kernel,
    compose_sameFragments tidy wild inTidy inWild same .lastFirst .firstFirst .empty⟩

def mixedPage : EmbeddedSource := .ofFiles [
  ("layouts/base.html.tera", ""), ("pages/note.html.tera", "{{ range(a=x(), b=y()) }}"),
  ("shared/none.tera", "")]

theorem mixedPage_listable {s : EmbeddedSource} (hs : s ∈ [mixedPage, mixedPage.withDir "attic"]) :
    s.WellFormed ∧ ∀ role, ∃ entries, s.list (ViewLayout.standard.rootPath role) = .ok entries := by
  simp only [List.mem_cons, List.not_mem_nil, or_false] at hs
  rcases hs with rfl | rfl
  · have h : mixedPage.WellFormed := by decide +kernel
    exact ⟨h, h.listable fun role => by cases role <;> decide +kernel⟩
  · have h : (mixedPage.withDir "attic").WellFormed := by decide +kernel
    exact ⟨h, h.listable fun role => by cases role <;> decide +kernel⟩

/-- With one more directory another function is named: not for the directory, but for the order. -/
theorem compose_sameFragments_mixed :
    (∀ s ∈ [mixedPage, mixedPage.withDir "attic"], s.WellFormed ∧
        ∀ role, ∃ entries, s.list (ViewLayout.standard.rootPath role) = .ok entries) ∧
      SameFragments .standard mixedPage (mixedPage.withDir "attic") ∧
        ∃ o₁ o₂, (compose o₁ mixedPage.toSource .standard .empty).run.1 =
            .error (.unboundFunction "base:note" "y") ∧
          (compose o₂ (mixedPage.withDir "attic").toSource .standard .empty).run.1 =
            .error (.unboundFunction "base:note" "x") := by
  refine ⟨fun s => mixedPage_listable, by decide +kernel, .lastFirst, .firstFirst, ?last, ?first⟩
  case last =>
    rw [compose_error_iff]
    decide +kernel
  case first =>
    rw [compose_error_iff]
    decide +kernel

end ViewWeave
