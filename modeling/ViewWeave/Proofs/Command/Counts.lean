import ViewWeave.Proofs.Command.Agreement

/-!
# What a check counts

The numbers of layouts and pages are told from the names of the templates, split at their first
colons. They are those of the files as long as no layout has a colon in its short name, since the
names of a registry differ and so do the short names they are made of.
-/

namespace ViewWeave

/-! ## Counting -/

theorem nodup_eraseDups {α : Type} [BEq α] [LawfulBEq α] : ∀ xs : List α, xs.eraseDups.Nodup
  | [] => by simp
  | x :: xs => by
    rw [List.eraseDups_cons, List.nodup_cons]
    exact ⟨by simp, nodup_eraseDups (xs.filter fun y => !y == x)⟩
termination_by xs => xs.length
decreasing_by exact Nat.lt_succ_of_le (List.length_filter_le _ _)

theorem countDistinct_eq {xs ys : List String} (distinct : ys.Nodup) (same : ∀ x, x ∈ xs ↔ x ∈ ys) :
    Report.countDistinct xs = ys.length := by
  have perm : xs.eraseDups.Perm ys :=
    (List.perm_ext_iff_of_nodup (nodup_eraseDups xs) distinct).mpr fun x => by
      rw [List.mem_eraseDups, same]
  exact perm.length_eq

section
variable {α β γ : Type} {f : α → β → γ} {as : List α} {bs : List β}

theorem nodup_map_left {b : β} (hb : b ∈ bs) (h : ((as ×ˢ bs).map fun x => f x.1 x.2).Nodup) :
    (as.map (f · b)).Nodup := by
  induction as with
  | nil => simp
  | cons a as ih =>
    rw [List.product_cons, List.map_append, List.nodup_append] at h
    obtain ⟨-, rest, apart⟩ := h
    rw [List.map_cons, List.nodup_cons]
    refine ⟨fun hm => ?_, ih rest⟩
    obtain ⟨a', ha', same⟩ := List.mem_map.mp hm
    refine apart (f a b) (by simpa using ⟨b, hb, rfl⟩) (f a' b) ?_ same.symm
    exact List.mem_map.mpr ⟨(a', b), List.mem_product.mpr ⟨ha', hb⟩, rfl⟩

theorem nodup_map_right {a : α} (ha : a ∈ as) (h : ((as ×ˢ bs).map fun x => f x.1 x.2).Nodup) :
    (bs.map (f a)).Nodup := by
  induction as with
  | nil => exact absurd ha List.not_mem_nil
  | cons a' as ih =>
    rw [List.product_cons, List.map_append, List.nodup_append] at h
    obtain ⟨first, rest, -⟩ := h
    rcases List.mem_cons.mp ha with rfl | ha
    · simpa [Function.comp_def] using first
    · exact ih ha rest

end

/-! ## Halves of names -/

section
variable {order : WalkOrder} {source : ViewSource} {v : ViewLayout} {helpers : Helpers}
  {r : Registry}

def HalvesNamed (v : ViewLayout) (t : ComposedTemplate) : Prop :=
  v.layoutShort? t.layoutPath = some t.name.layout ∧ v.pageShort? t.pagePath = some t.name.page

theorem halvesNamed_iff (h : (compose order source v helpers).run.1 = .ok r)
    {t : ComposedTemplate} (ht : t ∈ r.toList) {short : String}
    (hs : v.layoutShort? t.layoutPath = some short) :
    HalvesNamed v t ↔ ':' ∉ short.toList := by
  obtain ⟨l, hl, p, hp, rfl⟩ := (mem_toList h).mp ht
  obtain ⟨good, -⟩ := compose_ok h
  obtain ⟨layoutName, -⟩ := good.file (by decide) hl
  obtain ⟨pageName, -⟩ := good.file (by decide) hp
  have short_eq : v.short .layout l = short := Option.some.inj (layoutName.symm.trans hs)
  constructor
  · rintro ⟨half, -⟩
    rw [Option.some.inj (hs.symm.trans half)]
    exact TemplateName.not_mem_layout (by simp [entryAt, entryOf])
  · intro plain
    obtain ⟨layout, page⟩ := TemplateName.layout_eq (short_eq.symm ▸ plain) (v.short .page p)
    exact ⟨layoutName.trans (congrArg some layout.symm), pageName.trans (congrArg some page.symm)⟩

/-! ## Names that differ -/

theorem names_nodup (h : (compose order source v helpers).run.1 = .ok r) :
    ((files source v .layout ×ˢ files source v .page).map fun lp =>
      v.short .layout lp.1 ++ ":" ++ v.short .page lp.2).Nodup := by
  obtain ⟨good, -⟩ := compose_ok h
  have distinct := good.distinct
  unfold Distinct at distinct
  rw [pairsOf_eq_entries, List.map_map] at distinct
  exact distinct

theorem layout_shorts_nodup (h : (compose order source v helpers).run.1 = .ok r) {p : String}
    (hp : p ∈ files source v .page) : ((files source v .layout).map (v.short .layout)).Nodup := by
  have named := nodup_map_left (f := fun l p => v.short .layout l ++ ":" ++ v.short .page p) hp
    (names_nodup h)
  refine List.Nodup.of_map (fun short => short ++ ":" ++ v.short .page p) ?_
  rwa [List.map_map]

theorem page_shorts_nodup (h : (compose order source v helpers).run.1 = .ok r) {l : String}
    (hl : l ∈ files source v .layout) : ((files source v .page).map (v.short .page)).Nodup := by
  have named := nodup_map_right (f := fun l p => v.short .layout l ++ ":" ++ v.short .page p) hl
    (names_nodup h)
  refine List.Nodup.of_map (fun short => v.short .layout l ++ ":" ++ short) ?_
  rwa [List.map_map]

/-- Where no layout has a colon in its short name, the halves of the names count the files. -/
theorem countDistinct_halves (h : (compose order source v helpers).run.1 = .ok r)
    (some : r.size ≠ 0) (plain : ∀ l ∈ files source v .layout, ':' ∉ (v.short .layout l).toList) :
    Report.countDistinct (r.toList.map fun t => t.name.layout) = (files source v .layout).length ∧
      Report.countDistinct (r.toList.map fun t => t.name.page) = (files source v .page).length := by
  have size := size_eq h
  obtain ⟨l, hl⟩ : ∃ l, l ∈ files source v .layout := by
    refine List.exists_mem_of_ne_nil _ fun none => ?_
    simp [size, none] at some
  obtain ⟨p, hp⟩ : ∃ p, p ∈ files source v .page := by
    refine List.exists_mem_of_ne_nil _ fun none => ?_
    simp [size, none] at some
  have halves {l : String} (hl : l ∈ files source v .layout) (p : String) :
      (entryAt source v l p).name.layout = v.short .layout l ∧
      (entryAt source v l p).name.page = v.short .page p :=
    TemplateName.layout_eq (plain l hl) (v.short .page p)
  constructor
  · rw [← List.length_map (v.short .layout)]
    refine countDistinct_eq (layout_shorts_nodup h hp) fun x => ?_
    simp only [List.mem_map, mem_toList h]
    constructor
    · rintro ⟨t, ⟨l, hl, p, -, rfl⟩, rfl⟩
      exact ⟨l, hl, (halves hl p).1.symm⟩
    · rintro ⟨l, hl, rfl⟩
      exact ⟨_, ⟨l, hl, p, hp, rfl⟩, (halves hl p).1⟩
  · rw [← List.length_map (v.short .page)]
    refine countDistinct_eq (page_shorts_nodup h hl) fun x => ?_
    simp only [List.mem_map, mem_toList h]
    constructor
    · rintro ⟨t, ⟨l, hl, p, hp, rfl⟩, rfl⟩
      exact ⟨p, hp, (halves hl p).2.symm⟩
    · rintro ⟨p, hp, rfl⟩
      exact ⟨_, ⟨l, hl, p, hp, rfl⟩, (halves hl p).2⟩

end

end ViewWeave

/-! ## Checks -/

namespace ViewWeave.Command

/-- What a check tells of a view set, beside what was found under its roots. The numbers of files
are the ones that are told if no layout has a colon in its short name. -/
structure Counted (source : ViewSource) (v : ViewLayout) (r : Registry) (origin : String)
    (told : List UInt8) (layouts pages : List String) : Prop where
  scanned_layouts : (scan source (v.root .layout) .layout v.fragmentExtension).run.1 = .ok layouts
  scanned_pages : (scan source (v.root .page) .page v.fragmentExtension).run.1 = .ok pages
  size : r.size = layouts.length * pages.length
  total : ∃ s, told = Text.utf8 (s!"✓ {r.size} templates composed from " ++ s)
  halves : ∀ t ∈ r.toList, ∃ short, v.layoutShort? t.layoutPath = some short ∧
    (HalvesNamed v t ↔ ':' ∉ short.toList)
  counts : r.size ≠ 0 → (∀ l ∈ layouts, ∀ short, v.layoutShort? l = some short →
    ':' ∉ short.toList) →
    told = Text.utf8
      s!"✓ {r.size} templates composed from {layouts.length} layouts × {pages.length} pages ({origin})\n"

/-- **Counts.** A check that succeeds tells the number of templates, which is that of the pairs of
files; it tells the numbers of files where the halves of the names are their short names. -/
theorem check_counts {host : Host} {tree : FileTree} {helpers : Helpers} {args : List String}
    {c : ViewChoice} (h : request? args = some (.check c))
    (succeeds : (run host tree helpers args).code = 0) :
    ∃ v r layouts pages, LayoutRead tree c.layout (.ok v) ∧
      (compose host.order (c.source tree) v helpers).run.1 = .ok r ∧
      Counted (c.source tree) v r c.describe (run host tree helpers args).stdout layouts pages := by
  have checked : run host tree helpers args =
      printing tree ((c.build host.order tree helpers).map fun r => Report.summary r c.describe) :=
    run_eq h host tree helpers
  cases hb : c.build host.order tree helpers with
  | error trouble =>
    rw [checked, hb] at succeeds
    cases succeeds
  | ok r =>
    obtain ⟨v, hv, hr⟩ : ∃ v, LayoutRead tree c.layout (.ok v) ∧
        (compose host.order (c.source tree) v helpers).run.1 = .ok r := by
      cases build_eq_iff.mp hb with
      | composed layout composed => exact ⟨_, layout, composed⟩
    obtain ⟨good, -⟩ := compose_ok hr
    refine ⟨v, r, _, _, hv, hr, good.scan .layout, good.scan .page, size_eq hr, ?total,
      fun t ht => ?halves, ?counts⟩
    case total =>
      obtain ⟨s, hs⟩ := exists_summary_eq r c.describe
      refine ⟨s, ?_⟩
      rw [checked, hb, ← hs]
      rfl
    case halves =>
      obtain ⟨l, hl, p, hp, rfl⟩ := (mem_toList hr).mp ht
      have named := (good.file (by decide) hl).1
      exact ⟨_, named, halvesNamed_iff hr ht named⟩
    case counts =>
      intro some plain
      obtain ⟨layouts, pages⟩ := countDistinct_halves hr some fun l hl =>
        plain l hl _ (good.file (by decide) hl).1
      rw [checked, hb]
      show Text.utf8 (Report.summary r c.describe) = _
      unfold Report.summary
      dsimp only
      rw [if_neg some, layouts, pages]

theorem check_counts_accounts :
    request? ["check", "--views=/site"] = some (.check siteChoice) ∧
      (run .plain (siteOf accounts) .empty ["check", "--views=/site"]).code = 0 ∧
        ∃ r layouts pages, r.names = ["base:auth", "base:auth/login"] ∧
          Counted (siteChoice.source (siteOf accounts)) .standard r "'/site'"
            (run .plain (siteOf accounts) .empty ["check", "--views=/site"]).stdout
            layouts pages := by
  have request : request? ["check", "--views=/site"] = some (.check siteChoice) := by
    decide +kernel
  obtain ⟨r, hr, names⟩ := accounts_names
  have built : Built Host.plain.order (siteOf accounts) .empty siteChoice (.ok r) :=
    .composed (v := .standard) rfl hr
  have succeeds : (run .plain (siteOf accounts) .empty ["check", "--views=/site"]).code = 0 := by
    rw [run_check request, build_eq_iff.mpr built]
    rfl
  obtain ⟨v, r', layouts, pages, hv, hr', counted⟩ := check_counts request succeeds
  cases hv
  cases hr.symm.trans hr'
  exact ⟨request, succeeds, r, layouts, pages, names, counted⟩

def colonTree : ViewTree where
  files := [
    (["layouts", "a:x.html.tera"], ""),
    (["layouts", "a:y.html.tera"], ""),
    (["pages", "p.html.tera"], "")]
  dirs := [["layouts"], ["pages"], ["shared"]]
  named := by decide +kernel
  distinct := by decide +kernel
  rooted := by decide +kernel

def colonRegistry : Registry :=
  registryOf .standard .empty (pairsOf colonTree.embedded.toSource .standard)

theorem colonTree_ok : (compose .lastFirst (siteChoice.source (siteOf colonTree)) .standard
    .empty).run.1 = .ok colonRegistry :=
  site_ok (compose_of_failures (by decide +kernel))

/-- Two layouts and one page are told as one layout and two pages. -/
theorem check_miscounts : colonRegistry.toList.map (fun t => (t.layoutPath, t.pagePath)) =
      [("layouts/a:x.html.tera", "pages/p.html.tera"),
        ("layouts/a:y.html.tera", "pages/p.html.tera")] ∧
    (compose .lastFirst (siteChoice.source (siteOf colonTree)) .standard .empty).run.1 =
        .ok colonRegistry ∧
      (run .plain (siteOf colonTree) .empty ["check", "--views=/site"]).stdout =
        Text.utf8 "✓ 2 templates composed from 1 layouts × 2 pages ('/site')\n" := by
  refine ⟨by decide +kernel, colonTree_ok, ?_⟩
  have request : request? ["check", "--views=/site"] = some (.check siteChoice) := by
    decide +kernel
  have told : Report.summary colonRegistry siteChoice.describe =
      "✓ 2 templates composed from 1 layouts × 2 pages ('/site')\n" := by decide +kernel
  have built : Built Host.plain.order (siteOf colonTree) .empty siteChoice (.ok colonRegistry) :=
    .composed (v := .standard) rfl colonTree_ok
  rw [run_check request, build_eq_iff.mpr built, ← told]
  rfl

end ViewWeave.Command
