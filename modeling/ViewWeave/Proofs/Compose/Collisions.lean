import ViewWeave.Proofs.Compose.Naming
import ViewWeave.Proofs.Source.Children
import ViewWeave.Proofs.Source.Directories

/-!
# Where names collide

A template has its layout's short name, a colon and its page's short name. Pages are named by their
paths, so two pages never have one name. If two templates do, it is for their layouts: these have
one base name, or a colon in the longer one of their names reads like the colon after the shorter
one.
-/

namespace ViewWeave

/-- A well-formed embedded source, or a directory of a tree that a file system can hold. -/
inductive ViewSource.Proper : ViewSource → Prop
  | embedded {s : EmbeddedSource} : s.WellFormed → Proper s.toSource
  | onDisk {s : DirSource} : s.tree.Legal → Proper s.toSource

theorem ViewSource.Proper.orderly {source : ViewSource} (h : source.Proper) : source.Orderly := by
  cases h with
  | embedded wellFormed => exact wellFormed.orderly
  | onDisk legal => exact DirSource.orderly legal

/-! ## Pages -/

section
variable {source : ViewSource} {v : ViewLayout} {role : Role}

variable (h : source.Orderly)
include h

theorem nodup_files : (files source v role).Nodup := (h.found_ascends _ _).nodup

theorem below_of_mem_files {x : String} (hx : x ∈ files source v role) :
    Below (v.rootPath role) x := by
  have below := h.found_below hx
  rwa [show EmbeddedSource.trimmed (v.rootPath role) = v.rootPath role from
    trimmed_trimmed (v.root role)] at below

/-- What is left of a page's path tells the path: either all pages lose the root, or none does. -/
theorem belowPages_injective {p q : String} (hp : p ∈ files source v .page)
    (hq : q ∈ files source v .page) (same : v.belowPages p = v.belowPages q) : p = q := by
  have belowP := below_of_mem_files h hp
  have belowQ := below_of_mem_files h hq
  rw [v.rootPath_page] at belowP belowQ
  by_cases hd : v.pagesDir = ""
  · rw [ViewLayout.belowPages_of_empty hd, ViewLayout.belowPages_of_empty hd] at same
    exact String.toList_inj.mp same
  obtain ⟨r, spelledP⟩ := belowP.spelled hd
  obtain ⟨r', spelledQ⟩ := belowQ.spelled hd
  by_cases keeps : v.KeepsRoot
  · rw [ViewLayout.belowPages_of_keepsRoot keeps spelledP,
      ViewLayout.belowPages_of_keepsRoot keeps spelledQ] at same
    exact String.toList_inj.mp same
  · rw [ViewLayout.belowPages_of_not_keepsRoot keeps hd spelledP,
      ViewLayout.belowPages_of_not_keepsRoot keeps hd spelledQ] at same
    rw [← String.toList_inj, spelledP, spelledQ, same]

theorem pageShort?_injective {p q : String} (hp : p ∈ files source v .page)
    (hq : q ∈ files source v .page)
    {short : String} (shortP : v.pageShort? p = some short) (shortQ : v.pageShort? q = some short) :
    p = q := by
  refine belowPages_injective h hp hq ?_
  rw [(ViewLayout.dropMarker?_eq_some_iff.mp shortP).1,
    (ViewLayout.dropMarker?_eq_some_iff.mp shortQ).1]

end

/-! ## Names with colons -/

/-- Two short names of layouts that can begin one template name. -/
def NamesClash (a b : String) : Prop :=
  a = b ∨ (∃ rest, b = a ++ ":" ++ rest) ∨ ∃ rest, a = b ++ ":" ++ rest

theorem namesClash_of_text {a b p q : String} (h : a ++ ":" ++ p = b ++ ":" ++ q) :
    NamesClash a b := by
  have name : TemplateName.ofParts a p = TemplateName.ofParts b q := by
    rw [TemplateName.ofParts_eq, TemplateName.ofParts_eq, h]
  rcases TemplateName.ofParts_eq_iff.mp name with ⟨same, -⟩ | ⟨rest, longer, -⟩ | ⟨rest, longer, -⟩
  · exact .inl same
  · exact .inr (.inl ⟨rest, longer⟩)
  · exact .inr (.inr ⟨rest, longer⟩)

/-! ## Templates -/

theorem not_distinct_of_duplicate {order : WalkOrder} {helpers : Helpers}
    {name first second : String} : ∀ {ts earlier : List ComposedTemplate},
      .duplicateName name first second ∈ pairFailures order helpers earlier ts →
      ¬Distinct (earlier ++ ts)
  | [], _, hf => absurd hf List.not_mem_nil
  | t :: ts, earlier, hf => by
    unfold pairFailures at hf
    rcases List.mem_append.mp hf with here | later
    · rcases List.mem_append.mp here with duplicate | compiled
      · unfold duplicateFailures at duplicate
        cases hs : earlier.find? fun s => s.name.text = t.name.text with
        | none =>
          rw [hs] at duplicate
          exact absurd duplicate List.not_mem_nil
        | some s =>
          intro distinct
          unfold Distinct at distinct
          rw [List.map_append, List.nodup_append] at distinct
          have same : s.name.text = t.name.text := by simpa using List.find?_some hs
          exact distinct.2.2 _ (List.mem_map_of_mem (List.mem_of_find?_eq_some hs)) _
            (List.mem_map_of_mem (List.mem_cons_self ..)) same
      · unfold compileFailures at compiled
        split at compiled
        · simp at compiled
        · split at compiled <;> simp at compiled
    · have distinct := not_distinct_of_duplicate later
      rwa [List.append_assoc, List.singleton_append] at distinct

section
variable {order : WalkOrder} {source : ViewSource} {v : ViewLayout} {helpers : Helpers}
  {name first second : String}

theorem not_mem_rootFailures (role : Role) :
    .duplicateName name first second ∉ rootFailures source v role := by
  intro hf
  rcases source.mem_listFailures_iff.mp hf with ⟨_, _, _, _, _, _, wrong⟩ |
    ⟨_, _, wrong⟩ <;> cases wrong

theorem not_mem_readFailures (path : String) :
    .duplicateName name first second ∉ source.readFailures path := by
  unfold ViewSource.readFailures
  split <;> simp

theorem not_mem_fileFailures (role : Role) :
    .duplicateName name first second ∉ fileFailures source v role := by
  unfold fileFailures
  rw [List.mem_append, List.mem_flatMap, List.mem_flatMap]
  rintro (⟨path, -, hf⟩ | ⟨path, -, hf⟩)
  · unfold ViewLayout.nameFailures at hf
    split at hf <;> simp at hf
  · exact not_mem_readFailures path hf

/-- A collision is told only when all checks before that of the pairs have passed. -/
theorem failures_of_duplicate
    (h : (compose order source v helpers).run.1 = .error (.duplicateName name first second)) :
    (∀ role, rootFailures source v role = []) ∧
    (∀ {role}, role ≠ .shared → fileFailures source v role = []) ∧
      ¬Distinct (pairsOf source v) := by
  have head := (compose_error_iff order source v helpers).mp h
  unfold failures at head
  generalize before : rootFailures source v .layout ++ rootFailures source v .page ++
    rootFailures source v .shared ++
    fileFailures source v .layout ++ fileFailures source v .page ++
    (files source v .shared).flatMap source.readFailures ++ helpers.failures = checks at head
  have nothing : checks = [] := by
    by_contra some
    rw [List.head?_append_of_ne_nil _ some] at head
    have member := List.mem_of_mem_head? head
    rw [← before] at member
    simp only [List.mem_append, not_mem_rootFailures, not_mem_fileFailures, false_or,
      List.mem_flatMap, not_mem_readFailures, and_false, exists_false] at member
    obtain ⟨n, -, wrong⟩ := List.mem_map.mp member
    cases wrong
  rw [nothing, List.nil_append] at head
  rw [nothing] at before
  simp only [List.append_eq_nil_iff] at before
  obtain ⟨⟨⟨⟨⟨⟨layoutRoot, pageRoot⟩, sharedRoot⟩, layouts⟩, pages⟩, -⟩, -⟩ := before
  refine ⟨fun role => ?roots, fun {role} apart => ?files,
    not_distinct_of_duplicate (List.mem_of_mem_head? head)⟩
  case roots =>
    cases role with
    | layout => exact layoutRoot
    | page => exact pageRoot
    | shared => exact sharedRoot
  case files =>
    cases role with
    | layout => exact layouts
    | page => exact pages
    | shared => exact absurd rfl apart

theorem exists_layouts_of_not_distinct (h : source.Orderly)
    (nofail : fileFailures source v .page = []) (twice : ¬Distinct (pairsOf source v)) :
    ∃ l ∈ files source v .layout, ∃ m ∈ files source v .layout,
      l ≠ m ∧ NamesClash (v.short .layout l) (v.short .layout m) := by
  have nodup (role : Role) : (files source v role).Nodup := nodup_files h
  have product := (nodup .layout).product (nodup .page)
  unfold Distinct at twice
  rw [pairsOf_eq_entries, List.map_map] at twice
  obtain ⟨⟨l, p⟩, hx, ⟨m, q⟩, hy, same, apart⟩ :
      ∃ x ∈ files source v .layout ×ˢ files source v .page,
      ∃ y ∈ files source v .layout ×ˢ files source v .page,
        (entryAt source v x.1 x.2).name.text = (entryAt source v y.1 y.2).name.text ∧ x ≠ y := by
    by_contra none
    push Not at none
    exact twice (product.map_on fun x hx y hy => none x hx y hy)
  obtain ⟨hl, hp⟩ := List.mem_product.mp hx
  obtain ⟨hm, hq⟩ := List.mem_product.mp hy
  refine ⟨l, hl, m, hm, ?_, namesClash_of_text same⟩
  rintro rfl
  -- with one layout the pages would have to collide
  have pages : v.short .page p = v.short .page q := by
    have lists := congrArg String.toList same
    exact String.toList_inj.mp (by simpa [entryAt, entryOf] using lists)
  have shortQ := (file_of_fileFailures nofail hq).1
  rw [← pages] at shortQ
  rw [pageShort?_injective h hp hq (file_of_fileFailures nofail hp).1 shortQ] at apart
  exact apart rfl

/-- **Collisions.** If two templates get one name, it is for two layouts whose short names are equal
or one of which is the other with a colon and anything after it. Pages never collide: of all pages
of a scan that have a short name no two have the same one. -/
theorem collisions_of_layouts (h : source.Proper) (v : ViewLayout) :
    (∀ order helpers name first second,
      (compose order source v helpers).run.1 = .error (.duplicateName name first second) →
      ∃ layouts, (scan source (v.root .layout) .layout v.fragmentExtension).run.1 = .ok layouts ∧
        ∃ l ∈ layouts, ∃ m ∈ layouts, l ≠ m ∧
          ∃ a b, v.layoutShort? l = some a ∧ v.layoutShort? m = some b ∧ NamesClash a b) ∧
      ∀ pages, (scan source (v.root .page) .page v.fragmentExtension).run.1 = .ok pages →
        ∀ p ∈ pages, ∀ q ∈ pages, p ≠ q → (v.pageShort? p).isSome → (v.pageShort? q).isSome →
          v.pageShort? p ≠ v.pageShort? q := by
  constructor
  · intro order helpers name first second collision
    obtain ⟨roots, named, twice⟩ := failures_of_duplicate collision
    obtain ⟨l, hl, m, hm, apart, clash⟩ :=
      exists_layouts_of_not_distinct h.orderly (named (by decide)) twice
    have short {x : String} (hx : x ∈ files source v .layout) :
        v.layoutShort? x = some (v.short .layout x) :=
      (file_of_fileFailures (named (by decide)) hx).1
    exact ⟨_, scan_ok_iff.mpr ⟨roots .layout, rfl⟩, l, hl, m, hm, apart, _, _, short hl,
      short hm, clash⟩
  · intro pages scanned p hp q hq apart someP _ same
    obtain ⟨-, rfl⟩ := scan_ok_iff.mp scanned
    obtain ⟨short, shortP⟩ := Option.isSome_iff_exists.mp someP
    exact apart (pageShort?_injective h.orderly hp hq shortP (same ▸ shortP))

end

/-- Two layouts and two pages with colons in their names: one name can be cut in two ways. -/
def colons : EmbeddedSource := .ofFiles [
  ("layouts/a.html.tera", ""), ("layouts/a:b.html.tera", ""),
  ("pages/b:c.html.tera", ""), ("pages/c.html.tera", ""), ("shared/none.tera", "")]

theorem collisions_of_layouts_colons : colons.WellFormed ∧
    (compose .lastFirst colons.toSource .standard .empty).run.1 = .error (.duplicateName "a:b:c"
      "layouts/a.html.tera + pages/b:c.html.tera" "layouts/a:b.html.tera + pages/c.html.tera") ∧
    ∃ layouts, (scan colons.toSource "layouts" .layout "tera").run.1 = .ok layouts ∧
      ∃ l ∈ layouts, ∃ m ∈ layouts, l ≠ m ∧ ∃ a b, ViewLayout.standard.layoutShort? l = some a ∧
        ViewLayout.standard.layoutShort? m = some b ∧ NamesClash a b := by
  have wellFormed : colons.WellFormed := by decide +kernel
  have collision : (compose .lastFirst colons.toSource .standard .empty).run.1 =
    .error (.duplicateName "a:b:c"
      "layouts/a.html.tera + pages/b:c.html.tera" "layouts/a:b.html.tera + pages/c.html.tera") := by
    rw [compose_error_iff]
    decide +kernel
  exact ⟨wellFormed, collision,
    (collisions_of_layouts (.embedded wellFormed) .standard).1 _ _ _ _ _ collision⟩

end ViewWeave
