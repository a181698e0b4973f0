import ViewWeave.Proofs.Command.Rendering
import ViewWeave.Proofs.Compose.Entries
import ViewWeave.Proofs.Compose.Library
import ViewWeave.Proofs.Compose.Sources
import ViewWeave.Proofs.Data.RoundTrip
import ViewWeave.Proofs.Registry.Rendering
import ViewWeave.Proofs.Text.Decoding

/-!
# What the commands agree on

Checking, both ways of listing and rendering read one view set in the same way. They fail together,
and where they succeed the data listing says all there is to say: its rows are the templates that
are counted and that can be rendered.
-/

namespace ViewWeave.Command

/-! ## Reading a listing -/

def row (t : ComposedTemplate) : Value :=
  .obj [("bytes", .ofInt t.bytes), ("layout", .str t.layoutPath), ("name", .str t.name.text),
    ("page", .str t.pagePath)]

theorem sorted_entry (t : ComposedTemplate) : (Report.entry t).sorted = row t := by
  rfl

theorem exact_entry {t : ComposedTemplate} (h : (t.bytes : Int) ≤ Number.maxUnsigned)
    (depth : Nat) :
    Value.Exact (depth + 1) (Report.entry t) := by
  have low : Number.minSigned ≤ (t.bytes : Int) := by
    unfold Number.minSigned
    omega
  refine .obj fun f hf => ?_
  simp only [List.mem_cons, List.not_mem_nil, or_false] at hf
  rcases hf with rfl | rfl | rfl | rfl
  · exact .str _
  · exact .str _
  · exact .str _
  · exact .int low h

theorem sortedItems_entries (ts : List ComposedTemplate) :
    Value.sortedItems (ts.map Report.entry) = ts.map row := by
  induction ts with
  | nil => rfl
  | cons t ts ih => simp [Value.sortedItems, ih, sorted_entry]

theorem read_dataListing {r : Registry} (h : ∀ t ∈ r.toList, (t.bytes : Int) ≤ Number.maxUnsigned) :
    Data.read (Report.dataListing r) = .ok (.arr (r.toList.map row)) := by
  have entries : Value.Exact 127 (.arr (r.toList.map Report.entry)) := by
    refine .arr fun v hv => ?_
    obtain ⟨t, ht, rfl⟩ := List.mem_map.mp hv
    exact exact_entry (h t ht) 125
  unfold Report.dataListing
  rw [Data.read_indentedText entries (by decide), Value.sorted, sortedItems_entries]

/-! ## Templates that are missing -/

theorem exists_intercalate_eq (sep first : String) (rest : List String) :
    ∃ s, sep.intercalate (first :: rest) = first ++ s := by
  cases rest with
  | nil => exact ⟨"", by simp⟩
  | cons next rest =>
    refine ⟨sep ++ sep.intercalate (next :: rest), ?_⟩
    rw [String.intercalate_cons_cons, String.append_assoc]

theorem exists_error_eq (message : String) (causes : List String) :
    ∃ s, Report.error message causes = "Error: " ++ (message ++ s) := by
  unfold Report.error
  dsimp only
  obtain ⟨s, hs⟩ := exists_intercalate_eq "\n" ("Error: " ++ message) _
  rw [hs]
  exact ⟨s ++ "\n", by simp only [String.append_assoc]⟩

theorem error_execution_ne (name : String) (f : Failure) (causes : List String) :
    Report.error (RenderError.execution name f).message causes ≠
      Report.error (RenderError.notFound name).message [] := by
  obtain ⟨s, hs⟩ := exists_error_eq (RenderError.execution name f).message causes
  obtain ⟨s', hs'⟩ := exists_error_eq (RenderError.notFound name).message []
  have failed : (RenderError.execution name f).message =
      "failed to render template " ++ (name ++ (": " ++ f.message)) := by
    show "failed to render template " ++ name ++ ": " ++ f.message = _
    rw [String.append_assoc, String.append_assoc]
  have absent : (RenderError.notFound name).message = "template " ++ (name ++ " not found") := by
    show "template " ++ name ++ " not found" = _
    rw [String.append_assoc]
  rw [hs, hs', failed, absent]
  intro same
  have chars := congrArg String.toList same
  simp only [String.toList_append, List.append_cancel_left_eq] at chars
  exact absurd (List.cons.inj chars).1 (by decide)

/-! ## One view set -/

def readings (options : List String) : List (List String) :=
  ["check" :: options, "list" :: options, "list" :: "--json" :: options]

/-- A template names a layout file and a page file, and is as long as both and all shared files. -/
def Measured (source : ViewSource) (v : ViewLayout) (t : ComposedTemplate) : Prop :=
  ∃ layouts pages shared layout page texts,
    (scan source (v.root .layout) .layout v.fragmentExtension).run.1 = .ok layouts ∧
      (scan source (v.root .page) .page v.fragmentExtension).run.1 = .ok pages ∧
        (scan source (v.root .shared) .shared v.fragmentExtension).run.1 = .ok shared ∧
          t.layoutPath ∈ layouts ∧ t.pagePath ∈ pages ∧
            source.read t.layoutPath = .ok layout ∧ source.read t.pagePath = .ok page ∧
              shared.map source.read = texts.map .ok ∧
                t.bytes = (layout ++ page ++ String.join texts).utf8ByteSize

/-- What the commands tell of a registry, each in a run of its own. The rows are read back if all
numbers of bytes have 64 bits, as the lengths of texts in memory do; a longer number would be read
as a rounded one. -/
structure Tells (hosts : List String → Host) (tree : FileTree) (helpers : Helpers)
    (options : List String) (source : ViewSource) (v : ViewLayout) (r : Registry) : Prop where
  ends : ∀ args ∈ readings options, (run (hosts args) tree helpers args).code = 0 ∧
    (run (hosts args) tree helpers args).stderr = "" ∧
      (run (hosts args) tree helpers args).tree = tree
  rows : (∀ t ∈ r.toList, (t.bytes : Int) ≤ Number.maxUnsigned) →
    let listed := "list" :: "--json" :: options
    ∃ text, Text.decode? (run (hosts listed) tree helpers listed).stdout = some text ∧
      Data.read text = .ok (.arr (r.toList.map row))
  counts : let checked := "check" :: options
    ∃ s, (run (hosts checked) tree helpers checked).stdout =
      Text.utf8 (s!"✓ {(r.toList.map row).length} templates composed from " ++ s)
  registered : ∀ name t, r.lookup name = some t ↔ t ∈ r.toList ∧ t.name.text = name
  ascending : (r.toList.map fun t => t.name.text).Pairwise fun m n => Text.utf8 m < Text.utf8 n
  measured : ∀ t ∈ r.toList, Measured source v t
  missing : ∀ name : String, name.toList.head? ≠ some '-' →
    let rendered := "render" :: name :: options
    ((run (hosts rendered) tree helpers rendered).code = 1 ∧
        (run (hosts rendered) tree helpers rendered).stderr =
          Report.error s!"template {name} not found" [] ↔
      name ∉ r.toList.map fun t => t.name.text)

theorem measured_of_compose {order : WalkOrder} {source : ViewSource} {v : ViewLayout}
    {helpers : Helpers} {r : Registry} (h : (compose order source v helpers).run.1 = .ok r)
    {t : ComposedTemplate} (ht : t ∈ r.toList) : Measured source v t := by
  obtain ⟨l, hl, p, hp, rfl⟩ := (mem_toList h).mp ht
  obtain ⟨good, -⟩ := compose_ok h
  refine ⟨_, _, _, source.text l, source.text p, (files source v .shared).map source.text,
    good.scan .layout, good.scan .page, good.scan .shared, hl, hp,
    (good.file (by decide) hl).2, (good.file (by decide) hp).2, ?_, rfl⟩
  rw [List.map_map]
  exact List.map_congr_left fun s hs => good.sharedRead hs

theorem exists_summary_eq (r : Registry) (origin : String) :
    ∃ s, Report.summary r origin = s!"✓ {r.size} templates composed from " ++ s := by
  unfold Report.summary
  generalize Report.countDistinct (r.toList.map (·.name.layout)) = layouts
  generalize Report.countDistinct (r.toList.map (·.name.page)) = pages
  generalize s!"✓ {r.size} templates composed from " = head
  dsimp only
  split
  · exact ⟨_, by simp only [String.append_assoc]; rfl⟩
  · exact ⟨_, by simp only [String.append_assoc]; rfl⟩

section
variable {options : List String} {c : ViewChoice}
  (h : request? ("check" :: options) = some (.check c))
include h

theorem run_check (host : Host) (tree : FileTree) (helpers : Helpers) :
    run host tree helpers ("check" :: options) =
      printing tree ((c.build host.order tree helpers).map fun r => Report.summary r c.describe) :=
  run_eq h host tree helpers

theorem run_list_json (host : Host) (tree : FileTree) (helpers : Helpers) :
    run host tree helpers ("list" :: "--json" :: options) =
      printing tree ((c.build host.order tree helpers).map Report.dataListing) :=
  run_eq (request?_of_check h).2.1 host tree helpers

theorem run_readings {args : List String} (hargs : args ∈ readings options) :
    ∃ f, ∀ host tree helpers, run host tree helpers args =
      printing tree ((c.build host.order tree helpers).map f) := by
  simp only [readings, List.mem_cons, List.not_mem_nil, or_false] at hargs
  rcases hargs with rfl | rfl | rfl
  · exact ⟨_, run_check h⟩
  · exact ⟨_, run_eq (request?_of_check h).1⟩
  · exact ⟨_, run_list_json h⟩

/-- Rendering without data fails with the message for a missing template just if there is none. -/
theorem run_render_missing {host : Host} {tree : FileTree} {helpers : Helpers} {r : Registry}
    (built : Built host.order tree helpers c (.ok r)) {name : String}
    (hname : name.toList.head? ≠ some '-') :
    (run host tree helpers ("render" :: name :: options)).code = 1 ∧
        (run host tree helpers ("render" :: name :: options)).stderr =
          Report.error s!"template {name} not found" [] ↔
      r.lookup name = none := by
  have prepared : Prepared host.order tree helpers c none (.obj []) r := ⟨rfl, built⟩
  have rendered : run host tree helpers ("render" :: name :: options) =
      runRender host tree helpers c name none none :=
    run_eq ((request?_of_check h).2.2 name hname) ..
  rw [rendered, prepared.runRender_eq]
  constructor
  · rintro ⟨failed, told⟩
    by_contra found
    obtain ⟨t, ht⟩ := Option.ne_none_iff_exists'.mp found
    cases built with
    | composed _ hr =>
      obtain ⟨-, written, ended, rendered⟩ :=
        (wellMade_of_compose hr).renderInto_cases ht host.around (.obj []) none
      have rendered : r.render host.around name (.obj []) = _ := rendered
      rw [rendered] at failed told
      cases ended with
      | error f => exact error_execution_ne name f _ told
      | ok => cases failed
  · intro none
    have missing : r.render host.around name (.obj []) = _ :=
      Registry.renderInto_missing none host.around _ _
    rw [missing]
    exact ⟨rfl, rfl⟩

end

/-! ## Orders -/

/-- Two troubles are one, or tell of two functions that are not bound and may both be named. -/
inductive Trouble.SameButNamed (tree : FileTree) (helpers : Helpers) (c : ViewChoice) :
    Trouble → Trouble → Prop
  | same (t : Trouble) : SameButNamed tree helpers c t t
  | named {v : ViewLayout} {e f : InitError} (h : LayoutRead tree c.layout (.ok v))
    (named : e.SameButNamed (c.source tree) v helpers f) :
    SameButNamed tree helpers c (c.trouble e) (c.trouble f)

/-- Views are composed to one registry in all orders, or in none. -/
theorem build_orders (tree : FileTree) (helpers : Helpers) (c : ViewChoice) :
    (∃ r, ∀ order, c.build order tree helpers = .ok r) ∨
      ∃ trouble : WalkOrder → Trouble,
        (∀ order, c.build order tree helpers = .error (trouble order)) ∧
        ∀ o₁ o₂, (trouble o₁).SameButNamed tree helpers c (trouble o₂) := by
  unfold ViewChoice.build
  cases hl : c.loadLayout tree with
  | error t => exact .inr ⟨fun _ => t, fun _ => rfl, fun _ _ => .same t⟩
  | ok v =>
    have alike (o₁ o₂ : WalkOrder) := (compose_orders (c.source tree) v helpers o₁ o₂).result
    simp only [bind, Except.bind]
    cases hc : (compose .lastFirst (c.source tree) v helpers).run.1 with
    | ok r =>
      refine .inl ⟨r, fun order => ?_⟩
      have ended := alike .lastFirst order
      rw [show (compose .lastFirst (c.source tree) v helpers).result = .ok r from hc] at ended
      have composed : (compose order (c.source tree) v helpers).run.1 = .ok r := ended.eq_ok
      rw [composed]
      rfl
    | error e =>
      have failed (order : WalkOrder) :
          ∃ f, (compose order (c.source tree) v helpers).result = .error f := by
        have ended := alike order .lastFirst
        rw [show (compose .lastFirst (c.source tree) v helpers).result = .error e from hc] at ended
        cases hf : (compose order (c.source tree) v helpers).result with
        | ok r =>
          rw [hf] at ended
          cases ended
        | error f => exact ⟨f, rfl⟩
      choose f hf using failed
      refine .inr ⟨fun order => c.trouble (f order), fun order => ?_, fun o₁ o₂ => ?_⟩
      · have composed : (compose order (c.source tree) v helpers).run.1 = .error (f order) :=
          hf order
        rw [composed]
        rfl
      · have ended := alike o₁ o₂
        rw [hf o₁, hf o₂] at ended
        cases ended with
        | error named => exact .named (loadLayout_eq_iff.mp hl) named

/-- **One view set.** With the same options the three commands fail with the same message, up to the
name of a function that is left to the order of walks, or succeed and tell of the same registry.
None of them changes a file. -/
theorem commands_agree {hosts : List String → Host} {tree : FileTree} {helpers : Helpers}
    {options : List String} {c : ViewChoice}
    (h : request? ("check" :: options) = some (.check c)) :
    (∃ trouble : List String → Trouble,
      (∀ args ∈ readings options,
        run (hosts args) tree helpers args = failing tree [] (trouble args)) ∧
      ∀ a ∈ readings options, ∀ b ∈ readings options,
        (trouble a).SameButNamed tree helpers c (trouble b)) ∨
      ∃ v r, LayoutRead tree c.layout (.ok v) ∧
        (∀ order, (compose order (c.source tree) v helpers).run.1 = .ok r) ∧
        Tells hosts tree helpers options (c.source tree) v r := by
  rcases build_orders tree helpers c with ⟨r, hr⟩ | ⟨trouble, failed, same⟩
  · obtain ⟨v, layout⟩ : ∃ v, c.loadLayout tree = .ok v := by
      cases build_eq_iff.mp (hr .lastFirst) with
      | composed h => exact ⟨_, loadLayout_eq_iff.mpr h⟩
    have composed (order : WalkOrder) :
        (compose order (c.source tree) v helpers).run.1 = .ok r := by
      cases build_eq_iff.mp (hr order) with
      | composed h composed =>
        cases (loadLayout_eq_iff.mpr h).symm.trans layout
        exact composed
    refine .inr ⟨v, r, loadLayout_eq_iff.mp layout, composed, ?_⟩
    exact {
      ends := by
        intro args hargs
        obtain ⟨f, hf⟩ := run_readings h hargs
        rw [hf, hr]
        exact ⟨rfl, rfl, rfl⟩
      rows := by
        intro fits listed
        refine ⟨Report.dataListing r, ?_, read_dataListing fits⟩
        rw [run_list_json h, hr]
        exact Text.decode?_utf8 _
      counts := by
        obtain ⟨s, hs⟩ := exists_summary_eq r c.describe
        have length : (r.toList.map row).length = r.size := by simp [Registry.toList, Registry.size]
        refine ⟨s, ?_⟩
        rw [run_check h, hr, length, ← hs]
        rfl
      registered := fun name t => lookup_eq_some_iff (composed .lastFirst)
      ascending := ascending_toList (composed .lastFirst)
      measured := fun t ht => measured_of_compose (composed .lastFirst) ht
      missing := by
        intro name hname rendered
        rw [run_render_missing h (build_eq_iff.mp (hr _)) hname,
          lookup_eq_none_iff (composed .lastFirst)] }
  · refine .inl ⟨fun args => trouble (hosts args).order, fun args hargs => ?_,
      fun a _ b _ => same _ _⟩
    obtain ⟨f, hf⟩ := run_readings h hargs
    rw [hf, failed]
    rfl

theorem accounts_names :
    ∃ r, (compose .lastFirst (siteChoice.source (siteOf accounts)) .standard .empty).run.1 = .ok r ∧
      r.names = ["base:auth", "base:auth/login"] :=
  ⟨_, site_ok accounts_ok, by decide +kernel⟩

theorem commands_agree_accounts :
    request? ("check" :: ["--views=/site"]) = some (.check siteChoice) ∧
      ∃ r, r.names = ["base:auth", "base:auth/login"] ∧
        Tells (fun _ => .plain) (siteOf accounts) .empty ["--views=/site"]
          (siteChoice.source (siteOf accounts)) .standard r := by
  have request : request? ("check" :: ["--views=/site"]) = some (.check siteChoice) := by
    decide +kernel
  obtain ⟨r, hr, names⟩ := accounts_names
  refine ⟨request, r, names, ?_⟩
  rcases @commands_agree (fun _ => .plain) (siteOf accounts) .empty _ _ request with
    ⟨trouble, failed, -⟩ | ⟨v, r', hv, hr', tells⟩
  · -- the composition does not fail, so no command does
    have printed := run_check request .plain (siteOf accounts) .empty
    have built : Built Host.plain.order (siteOf accounts) .empty siteChoice (.ok r) :=
      .composed (v := .standard) rfl hr
    rw [build_eq_iff.mpr built, failed _ (List.mem_cons_self ..)] at printed
    cases printed
  · cases hv
    cases hr.symm.trans (hr' _)
    exact tells

theorem site_orders (order : WalkOrder) :
    compose order (siteChoice.source (siteOf mixed)) .standard .empty =
      compose order mixed.embedded.toSource .standard .empty := by
  rw [site_source]
  exact (compose_of_isDir mixed.embedded_shows
    (site_holds mixed).shows mixed_roots order .empty).symm

/-- Two commands name two functions. -/
theorem commands_agree_mixed :
    let told (f : String) : Trouble := siteChoice.trouble (.unboundFunction "base:note" f)
    run ⟨.firstFirst, .bare, .roomy⟩ (siteOf mixed) .empty ["check", "--views=/site"] =
        failing (siteOf mixed) [] (told "x") ∧
      run ⟨.lastFirst, .bare, .roomy⟩ (siteOf mixed) .empty ["list", "--views=/site"] =
        failing (siteOf mixed) [] (told "y") ∧
      Report.error (told "x").message (told "x").causes ≠
        Report.error (told "y").message (told "y").causes := by
  intro told
  have built {order : WalkOrder} {f : String}
      (h : (compose order mixed.embedded.toSource .standard .empty).run.1 =
        .error (.unboundFunction "base:note" f)) :
      siteChoice.build order (siteOf mixed) .empty = .error (told f) := by
    rw [← site_orders] at h
    exact build_eq_iff.mpr (.failed (v := .standard) rfl h)
  have checked : request? ["check", "--views=/site"] = some (.check siteChoice) := by
    decide +kernel
  have listed : request? ["list", "--views=/site"] = some (.list siteChoice false) := by
    decide +kernel
  refine ⟨?_, ?_, by decide +kernel⟩
  · rw [run_eq checked, runRequest, built mixed_firstFirst]
    rfl
  · rw [run_eq listed, runRequest, built mixed_lastFirst]
    rfl

end ViewWeave.Command
