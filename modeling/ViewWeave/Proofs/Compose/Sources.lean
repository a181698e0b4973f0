import ViewWeave.Proofs.Compose.Congruence
import ViewWeave.Proofs.Compose.Orders
import ViewWeave.Proofs.Source.Disk
import ViewWeave.Proofs.Source.Embedded

/-!
# Composing from one tree twice

Two sources that show one tree lead to the same registry, or to the same failure up to what the
source tells about it. So an embedded tree and the same tree on disk can stand for each other.
-/

namespace ViewWeave

/-- Two failures are one up to what the source told, or up to the order of walks. -/
inductive InitError.SameButTold (source : ViewSource) (v : ViewLayout) (helpers : Helpers) :
    InitError → InitError → Prop
  | told (path : String) (e f : IoError) : SameButTold source v helpers (.io path e) (.io path f)
  | named {e f : InitError} : e.SameButNamed source v helpers f → SameButTold source v helpers e f

/-- No part of a root between slashes is empty or stands for a directory by its place. -/
def ViewLayout.PlainRoots (v : ViewLayout) : Prop :=
  ∀ role, ∀ n ∈ pathParts (v.rootPath role), n ≠ "" ∧ n ≠ "." ∧ n ≠ ".."

theorem ViewLayout.PlainRoots.isPath {v : ViewLayout} (h : v.PlainRoots) (role : Role) :
    IsPath (pathParts (v.rootPath role)) := by
  intro n hn
  obtain ⟨nonempty, notHere, notAbove⟩ := h role n hn
  exact ⟨nonempty, noSlash_of_mem_pathParts hn, notHere, notAbove⟩

section
variable {a b : ViewSource} {t : ViewTree} {v : ViewLayout} (ha : a.Shows t) (hb : b.Shows t)
include ha hb

theorem root_of_isDir {role : Role} (h : t.IsDir (pathParts (v.rootPath role))) :
    files a v role = files b v role ∧ rootFailures a v role = [] ∧ rootFailures b v role = [] ∧
      ∀ x ∈ files a v role, ∃ f ∈ t.files, x = pathText f.1 := by
  have deepA : ∀ q, t.IsDir q → q.length < (pathParts (v.rootPath role)).length + a.depth :=
    fun q hq => Nat.lt_add_left _ (ha.deep hq)
  have deepB : ∀ q, t.IsDir q → q.length < (pathParts (v.rootPath role)).length + b.depth :=
    fun q hq => Nat.lt_add_left _ (hb.deep hq)
  have found := ha.found_eq hb v.fragmentExtension h deepA deepB
  have noneA := ha.listFailures_eq_nil h deepA
  have noneB := hb.listFailures_eq_nil h deepB
  have inTree := fun x => ha.exists_file_of_found v.fragmentExtension h (n := a.depth) (x := x)
  rw [pathText_pathParts] at found noneA noneB inTree
  exact ⟨found, noneA, noneB, inTree⟩

omit hb in
theorem rootFailures_of_not_isDir (hv : v.PlainRoots) {role : Role}
    (h : ¬t.IsDir (pathParts (v.rootPath role))) :
    ∃ e, rootFailures a v role = [.io (v.rootPath role) e] := by
  obtain ⟨e, he⟩ := ha.refuse (hv.isPath role) h
  rw [pathText_pathParts] at he
  have deep : 0 < a.depth := ha.deep (p := []) (.inl rfl)
  obtain ⟨n, hn⟩ := Nat.exists_eq_succ_of_ne_zero deep.ne'
  refine ⟨e, ?_⟩
  unfold rootFailures
  rw [hn, ViewSource.listFailures_of_error he]

theorem compose_of_isDir (h : ∀ role, t.IsDir (pathParts (v.rootPath role))) (order : WalkOrder)
    (helpers : Helpers) : compose order a v helpers = compose order b v helpers := by
  refine compose_congr (fun role => ?found) (fun role x hx => ?reads) order helpers
  case found =>
    obtain ⟨same, noneA, noneB, -⟩ := root_of_isDir ha hb (h role)
    rw [fragments_eq_verdict, fragments_eq_verdict, noneA, noneB, same]
  case reads =>
    obtain ⟨-, -, -, inTree⟩ := root_of_isDir ha hb (h role)
    obtain ⟨f, hf, rfl⟩ := inTree x hx
    rw [ha.read hf, hb.read hf]

/-- **One tree.** Two sources that show one tree are composed alike, in whatever orders. -/
theorem compose_sameTree (hv : v.PlainRoots) (o₁ o₂ : WalkOrder) (helpers : Helpers) :
    EndAlike (InitError.SameButTold b v helpers) (compose o₁ a v helpers).run.1
      (compose o₂ b v helpers).run.1 := by
  show EndAlike _ (compose o₁ a v helpers).result (compose o₂ b v helpers).result
  -- the first root that is no directory decides
  by_cases hl : t.IsDir (pathParts (v.rootPath .layout))
  · obtain ⟨-, la, lb, -⟩ := root_of_isDir ha hb hl
    by_cases hp : t.IsDir (pathParts (v.rootPath .page))
    · obtain ⟨-, pa, pb, -⟩ := root_of_isDir ha hb hp
      by_cases hs : t.IsDir (pathParts (v.rootPath .shared))
      · have all : ∀ role : Role, t.IsDir (pathParts (v.rootPath role))
          | .layout => hl
          | .page => hp
          | .shared => hs
        rw [compose_of_isDir ha hb all]
        exact (compose_orders b v helpers o₁ o₂).result.mono .named
      · obtain ⟨e, he⟩ := rootFailures_of_not_isDir ha hv hs
        obtain ⟨e', he'⟩ := rootFailures_of_not_isDir hb hv hs
        rw [compose_result, compose_result]
        unfold failures
        rw [la, lb, pa, pb, he, he']
        exact .error (.told _ _ _)
    · obtain ⟨e, he⟩ := rootFailures_of_not_isDir ha hv hp
      obtain ⟨e', he'⟩ := rootFailures_of_not_isDir hb hv hp
      rw [compose_result, compose_result]
      unfold failures
      rw [la, lb, he, he']
      exact .error (.told _ _ _)
  · obtain ⟨e, he⟩ := rootFailures_of_not_isDir ha hv hl
    obtain ⟨e', he'⟩ := rootFailures_of_not_isDir hb hv hl
    rw [compose_result, compose_result]
    unfold failures
    rw [he, he']
    exact .error (.told _ _ _)

end

/-- **Embedded and on disk.** The embedded source of a tree, with all its directories declared, and
a directory of a file system that holds the tree are composed alike, whatever the helpers are.
Failures are of one kind and have the same fields, up to what the source tells; where the arguments
of a call mix functions that are not bound, it is left to the orders which of them is named. -/
theorem compose_embedded_onDisk {t : ViewTree} {fs : FileTree} {top : List Bytes} {v : ViewLayout}
    (h : fs.HoldsAt top t) (hv : v.PlainRoots) (o₁ o₂ : WalkOrder) (helpers : Helpers) :
    EndAlike (InitError.SameButTold (DirSource.toSource ⟨fs, top⟩) v helpers)
      (compose o₁ t.embedded.toSource v helpers).run.1
      (compose o₂ (DirSource.toSource ⟨fs, top⟩) v helpers).run.1 :=
  compose_sameTree t.embedded_shows h.shows hv o₁ o₂ helpers

def accounts : ViewTree where
  files := [
    (["layouts", "base.html.tera"], "<main>"),
    (["pages", "auth.html.tera"], "{{ user }}"),
    (["pages", "auth", "login.html.tera"], "Who are you?")]
  dirs := [["pages", "auth"], ["shared"], ["pages"], ["layouts"]]
  named := by decide +kernel
  distinct := by decide +kernel
  rooted := by decide +kernel

theorem standard_plainRoots : ViewLayout.standard.PlainRoots := by
  intro role
  cases role <;> decide +kernel

theorem accounts_ok : (compose .lastFirst accounts.embedded.toSource .standard .empty).run.1 =
    .ok (registryOf .standard .empty (pairsOf accounts.embedded.toSource .standard)) :=
  compose_of_failures (by decide +kernel)

theorem compose_embedded_onDisk_accounts :
    (compose .lastFirst accounts.embedded.toSource .standard .empty).run.1 =
        .ok (registryOf .standard .empty (pairsOf accounts.embedded.toSource .standard)) ∧
      EndAlike
        (InitError.SameButTold (DirSource.toSource ⟨accounts.onDisk, []⟩) .standard .empty)
        (compose .lastFirst accounts.embedded.toSource .standard .empty).run.1
        (compose .lastFirst (DirSource.toSource ⟨accounts.onDisk, []⟩) .standard .empty).run.1 :=
  ⟨accounts_ok,
    compose_embedded_onDisk accounts.onDisk_holds standard_plainRoots .lastFirst .lastFirst .empty⟩

/-- Of two functions that are not bound either may be named. -/
def mixed : ViewTree where
  files := [
    (["layouts", "base.html.tera"], ""),
    (["pages", "note.html.tera"], "{{ range(a=x(), b=y()) }}")]
  dirs := [["shared"], ["pages"], ["layouts"]]
  named := by decide +kernel
  distinct := by decide +kernel
  rooted := by decide +kernel

theorem mixed_lastFirst : (compose .lastFirst mixed.embedded.toSource .standard .empty).run.1 =
    .error (.unboundFunction "base:note" "y") := by
  rw [compose_error_iff]
  decide +kernel

theorem mixed_firstFirst : (compose .firstFirst mixed.embedded.toSource .standard .empty).run.1 =
    .error (.unboundFunction "base:note" "x") := by
  rw [compose_error_iff]
  decide +kernel

theorem mixed_roots (role : Role) :
    mixed.IsDir (pathParts (ViewLayout.standard.rootPath role)) := by
  cases role <;> decide +kernel

theorem compose_embedded_onDisk_mixed : ∃ o₁ o₂,
    (compose o₁ mixed.embedded.toSource .standard .empty).run.1 =
        .error (.unboundFunction "base:note" "y") ∧
      (compose o₂ (DirSource.toSource ⟨mixed.onDisk, []⟩) .standard .empty).run.1 =
        .error (.unboundFunction "base:note" "x") := by
  have same := compose_of_isDir mixed.embedded_shows mixed.onDisk_holds.shows mixed_roots
  refine ⟨.lastFirst, .firstFirst, mixed_lastFirst, ?_⟩
  rw [← same]
  exact mixed_firstFirst

end ViewWeave
