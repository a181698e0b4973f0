import ViewWeave.Proofs.Command.Arguments
import ViewWeave.Proofs.Command.Loading
import ViewWeave.Proofs.Compose.Sources
import ViewWeave.Proofs.Data.RoundTrip
import ViewWeave.Proofs.Source.Writing

/-!
# Rendering to the standard output and into a file

Both ways of rendering come to the same text and fail together. Without a file the text is printed
as far as it comes; with a file nothing is printed, and the file is opened when all else has gone
well.
-/

namespace ViewWeave.Command

/-! ## Steps before rendering -/

section
variable (order : WalkOrder) (tree : FileTree) (helpers : Helpers) (c : ViewChoice)
  (data : Option String)

/-- The data is read, the view layout is read and the views are composed, with these results. -/
structure Prepared (value : Value) (r : Registry) : Prop where
  read : DataRead tree data (.ok value)
  built : Built order tree helpers c (.ok r)

/-- A step before rendering fails, and this is told. -/
inductive Stopped : Trouble → Prop
  | data {t : Trouble} (h : DataRead tree data (.error t)) : Stopped t
  | build {value : Value} {t : Trouble} (h : DataRead tree data (.ok value))
    (failed : Built order tree helpers c (.error t)) : Stopped t

end

section
variable {order : WalkOrder} {tree : FileTree} {helpers : Helpers} {c : ViewChoice}
  {data : Option String}

/-- Whether all is prepared and what for does not depend on the order of walks. -/
theorem Prepared.orders {value : Value} {r : Registry}
    (h : Prepared order tree helpers c data value r)
    (order' : WalkOrder) : Prepared order' tree helpers c data value r := by
  obtain ⟨read, built⟩ := h
  cases built with
  | @composed v _ layout composed =>
    have alike := (compose_orders (c.source tree) v helpers order order').result
    rw [show (compose order (c.source tree) v helpers).result = .ok r from composed] at alike
    exact ⟨read, .composed layout alike.eq_ok⟩

theorem Prepared.unique {value value' : Value} {r r' : Registry}
    (h : Prepared order tree helpers c data value r)
    (h' : Prepared order tree helpers c data value' r') : value' = value ∧ r' = r := by
  have read := (loadData_eq_iff.mpr h'.read).symm.trans (loadData_eq_iff.mpr h.read)
  have built := (build_eq_iff.mpr h'.built).symm.trans (build_eq_iff.mpr h.built)
  exact ⟨Except.ok.inj read, Except.ok.inj built⟩

theorem Prepared.exists_iff {value : Value} {r : Registry}
    (h : Prepared order tree helpers c data value r) {p : Value → Registry → Prop} :
    (∃ value r, Prepared order tree helpers c data value r ∧ p value r) ↔ p value r := by
  constructor
  · rintro ⟨value', r', h', hp⟩
    obtain ⟨rfl, rfl⟩ := h.unique h'
    exact hp
  · exact fun hp => ⟨value, r, h, hp⟩

theorem Stopped.unique {t t' : Trouble} (h : Stopped order tree helpers c data t)
    (h' : Stopped order tree helpers c data t') : t' = t := by
  cases h with
  | data h =>
    have read := loadData_eq_iff.mpr h
    cases h' with
    | data h' => exact Except.error.inj ((loadData_eq_iff.mpr h').symm.trans read)
    | build h' => cases (loadData_eq_iff.mpr h').symm.trans read
  | build h failed =>
    have read := loadData_eq_iff.mpr h
    cases h' with
    | data h' => cases (loadData_eq_iff.mpr h').symm.trans read
    | build _ failed' =>
      exact Except.error.inj ((build_eq_iff.mpr failed').symm.trans (build_eq_iff.mpr failed))

theorem Prepared.not_stopped {value : Value} {r : Registry} {t : Trouble}
    (h : Prepared order tree helpers c data value r) : ¬Stopped order tree helpers c data t := by
  have read := loadData_eq_iff.mpr h.read
  rintro (h' | ⟨h', failed⟩)
  · cases (loadData_eq_iff.mpr h').symm.trans read
  · cases (build_eq_iff.mpr failed).symm.trans (build_eq_iff.mpr h.built)

theorem prepared_or_stopped (order : WalkOrder) (tree : FileTree) (helpers : Helpers)
    (c : ViewChoice) (data : Option String) :
    (∃ value r, Prepared order tree helpers c data value r) ∨
      ∃ t, Stopped order tree helpers c data t := by
  cases hd : loadData tree data with
  | error t => exact .inr ⟨t, .data (loadData_eq_iff.mp hd)⟩
  | ok value =>
    have read := loadData_eq_iff.mp hd
    cases hb : c.build order tree helpers with
    | error t => exact .inr ⟨t, .build read (build_eq_iff.mp hb)⟩
    | ok r => exact .inl ⟨value, r, read, build_eq_iff.mp hb⟩

variable {host : Host}

theorem Stopped.runRender_eq {t : Trouble} (h : Stopped host.order tree helpers c data t)
    (name : String) (out : Option String) :
    runRender host tree helpers c name data out = failing tree [] t := by
  unfold runRender
  cases h with
  | data h =>
    rw [loadData_eq_iff.mpr h]
    rfl
  | build h failed =>
    rw [loadData_eq_iff.mpr h]
    simp only [bind, Except.bind]
    rw [build_eq_iff.mpr failed]

theorem Prepared.runRender_eq {value : Value} {r : Registry}
    (h : Prepared host.order tree helpers c data value r) (name : String) (out : Option String) :
    runRender host tree helpers c name data out =
      match r.render host.around name value, out with
      | (written, .ok ()), none => ⟨0, written, "", tree⟩
      | (written, .error e), none => failing tree written (renderTrouble e)
      | (_, .error e), some _ => failing tree [] (renderTrouble e)
      | (written, .ok ()), some path =>
        let saving := tree.write host.disk path written
        match saving.ended with
        | .ok () => ⟨0, saving.printed, "", saving.tree⟩
        | .error e =>
          failing saving.tree saving.printed ⟨s!"cannot write '{path}'", [e.message]⟩ := by
  unfold runRender
  rw [loadData_eq_iff.mpr h.read]
  simp only [bind, Except.bind]
  rw [build_eq_iff.mpr h.built]
  rfl

end

/-! ## Both ways -/

/-- The ending of a rendering to the standard output. -/
structure Prints (host : Host) (tree : FileTree) (helpers : Helpers) (c : ViewChoice)
    (data : Option String) (name : String) (e : Ending) : Prop where
  untouched : e.tree = tree
  exits : e.code = 0 ∨ e.code = 1
  succeeds : e.code = 0 ↔ ∃ value r, Prepared host.order tree helpers c data value r ∧
    (r.render host.around name value).2 = .ok ()
  prints : ∀ value r, Prepared host.order tree helpers c data value r →
    e.stdout = (r.render host.around name value).1
  stops : ∀ t, Stopped host.order tree helpers c data t →
    e.stdout = [] ∧ e.stderr = Report.error t.message t.causes

/-- The ending of a rendering into a file, beside that of the same rendering to the standard
output. -/
structure Saves (disk : Disk) (tree : FileTree) (path : String) (printed saved : Ending) :
    Prop where
  fails : printed.code ≠ 0 → saved.code = 1 ∧ saved.stdout = [] ∧ saved.tree = tree
  shut : printed.code = 0 → (∀ place, ¬tree.Opens disk path place) →
    saved.code = 1 ∧ saved.stdout = [] ∧ saved.tree = tree
  opened : printed.code = 0 → ∀ place, tree.Opens disk path place → ∃ taken ended,
    FileTree.Takes disk place printed.stdout taken ended ∧
      tree.Leaves path taken (tree.useAt disk place) saved.tree saved.stdout ∧
      (saved.code = 0 ∧ ended = .ok () ∨ saved.code = 1 ∧ ∃ e, ended = .error e)

section
variable {host : Host} {tree : FileTree} {helpers : Helpers} {c : ViewChoice}
  {data : Option String}

theorem prints_runRender (name : String) :
    Prints host tree helpers c data name (runRender host tree helpers c name data none) := by
  rcases prepared_or_stopped host.order tree helpers c data with ⟨value, r, h⟩ | ⟨t, h⟩
  · have only (value' : Value) (r' : Registry)
        (h' : Prepared host.order tree helpers c data value' r') := h.unique h'
    rw [h.runRender_eq]
    rcases hr : r.render host.around name value with ⟨written, e | ⟨⟩⟩
    · refine ⟨rfl, .inr rfl, ?_, fun value' r' h' => ?_,
        fun t stopped => absurd stopped h.not_stopped⟩
      · rw [h.exists_iff, hr]
        simp [failing]
      · obtain ⟨rfl, rfl⟩ := only value' r' h'
        rw [hr]
        rfl
    · refine ⟨rfl, .inl rfl, ?_, fun value' r' h' => ?_,
        fun t stopped => absurd stopped h.not_stopped⟩
      · rw [h.exists_iff, hr]
        simp
      · obtain ⟨rfl, rfl⟩ := only value' r' h'
        rw [hr]
  · rw [h.runRender_eq]
    refine ⟨rfl, .inr rfl, ?_, fun value r prepared => absurd h prepared.not_stopped,
      fun t' h' => ?_⟩
    · constructor
      · intro hz
        cases hz
      · rintro ⟨value, r, prepared, -⟩
        exact absurd h prepared.not_stopped
    · obtain rfl := h.unique h'
      exact ⟨rfl, rfl⟩

/-- The run that saves may walk in another order and have another disk. -/
theorem saves_runRender (order : WalkOrder) (disk : Disk) (name path : String) :
    Saves disk tree path (runRender host tree helpers c name data none)
      (runRender ⟨order, host.around, disk⟩ tree helpers c name data (some path)) := by
  rcases prepared_or_stopped host.order tree helpers c data with ⟨value, r, h⟩ | ⟨t, h⟩
  · have h' : Prepared (Host.order ⟨order, host.around, disk⟩) tree helpers c data value r :=
      h.orders order
    rw [h.runRender_eq, h'.runRender_eq]
    dsimp only
    rcases r.render host.around name value with ⟨written, e | ⟨⟩⟩
    · exact ⟨fun _ => ⟨rfl, rfl, rfl⟩, (nomatch ·), (nomatch ·)⟩
    · -- only writing the file is left
      dsimp only
      refine ⟨fun hz => absurd rfl hz, fun _ shut => ?_, fun _ place opens => ?_⟩
      · obtain ⟨e, he⟩ := FileTree.write_unopened shut written
        rw [he]
        exact ⟨rfl, rfl, rfl⟩
      · obtain ⟨taken, takes, leaves⟩ := FileTree.write_opened opens written
        refine ⟨taken, _, takes, ?_⟩
        cases (tree.write disk path written).ended with
        | ok => exact ⟨leaves, .inl ⟨rfl, rfl⟩⟩
        | error e => exact ⟨leaves, .inr ⟨rfl, e, rfl⟩⟩
  · obtain ⟨t', h'⟩ : ∃ t', Stopped order tree helpers c data t' := by
      rcases prepared_or_stopped order tree helpers c data with ⟨value, r, h'⟩ | stopped
      · exact absurd h (h'.orders host.order).not_stopped
      · exact stopped
    have h' : Stopped (Host.order ⟨order, host.around, disk⟩) tree helpers c data t' := h'
    rw [h.runRender_eq, h'.runRender_eq]
    exact ⟨fun _ => ⟨rfl, rfl, rfl⟩, (nomatch ·), (nomatch ·)⟩

end

theorem run_eq {args : List String} {request : Request} (h : request? args = some request)
    (host : Host) (tree : FileTree) (helpers : Helpers) :
    run host tree helpers args = runRequest host tree helpers request := by
  unfold run
  rw [h]

/-- **Printing and saving.** A rendering to the standard output changes no file and prints what the
rendering wrote. With a file given as well, in whatever way, the same rendering fails where the
other fails and then neither prints nor changes anything. Else the file, if it can be opened, takes
what the other prints, or as much of it as the disk has room for, and nothing else changes. Nothing
keeps the file from being one that was read. -/
theorem render_prints_or_saves {host : Host} {tree : FileTree} {helpers : Helpers} {c : ViewChoice}
    {name : String} {data : Option String} {rest : List String}
    (h : request? ("render" :: rest) = some (.render c name data none)) :
    Prints host tree helpers c data name (run host tree helpers ("render" :: rest)) ∧
      (∀ order disk args path, request? args = some (.render c name data (some path)) →
        Saves disk tree path (run host tree helpers ("render" :: rest))
          (run ⟨order, host.around, disk⟩ tree helpers args)) ∧
      ∀ path, isValue path → path ≠ "" →
        request? ("render" :: "--out" :: path :: rest) =
          some (.render c name data (some path)) := by
  have printed : run host tree helpers ("render" :: rest) =
      runRender host tree helpers c name data none := run_eq h ..
  rw [printed]
  refine ⟨prints_runRender name, fun order disk args path ha => ?_, fun path => request?_out h⟩
  have saved : run ⟨order, host.around, disk⟩ tree helpers args =
      runRender ⟨order, host.around, disk⟩ tree helpers c name data (some path) := run_eq ha ..
  rw [saved]
  exact saves_runRender order disk name path

/-- A view tree in a directory of its own, beside the file that stands for the standard output. -/
def siteOf (t : ViewTree) : FileTree :=
  ((t.onDisk.inside (Text.utf8 "site")).put [Text.utf8 "dev"] .dir).put
    [Text.utf8 "dev", Text.utf8 "stdout"] (.file [])

def siteChoice : ViewChoice := ⟨some "/site", none⟩

theorem site_holds (t : ViewTree) : (siteOf t).HoldsAt [Text.utf8 "site"] t :=
  ((t.onDisk_inside_holds (by decide)).put (by decide) (by decide) _).put (by decide) (by decide) _

theorem site_source (t : ViewTree) :
    siteChoice.source (siteOf t) = DirSource.toSource ⟨siteOf t, [Text.utf8 "site"]⟩ := by
  have root : (siteOf t).namesOf "/site" = [Text.utf8 "site"] := by
    show pathNames (Text.utf8 "/site") = _
    decide
  rw [← root]
  rfl

theorem site_ok {t : ViewTree} {r : Registry}
    (h : (compose .lastFirst t.embedded.toSource .standard .empty).run.1 = .ok r) :
    (compose .lastFirst (siteChoice.source (siteOf t)) .standard .empty).run.1 = .ok r := by
  have same := compose_sameTree t.embedded_shows (site_holds t).shows standard_plainRoots
    .lastFirst .lastFirst .empty
  rw [h, ← site_source] at same
  exact same.eq_ok

/-- A site with data for its one page. -/
def note : ViewTree where
  files := [
    (["layouts", "base.html.tera"], "<p>"),
    (["pages", "note.html.tera"], "{{ text }}"),
    (["note.json"], "\x7b\n  \"text\": \"&\"\n\x7d")]
  dirs := [["shared"], ["pages"], ["layouts"]]
  named := by decide +kernel
  distinct := by decide +kernel
  rooted := by decide +kernel

def noteData : Value := .obj [("text", .str "&")]

theorem noteData_read : Data.read "\x7b\n  \"text\": \"&\"\n\x7d" = .ok noteData := by
  have text : "\x7b\n  \"text\": \"&\"\n\x7d" = noteData.indentedText ++ "" := by decide +kernel
  rw [text]
  exact Data.read_indentedText (.obj fun f hf => List.mem_singleton.mp hf ▸ .str _) rfl

def noteRegistry : Registry :=
  registryOf .standard .empty (pairsOf note.embedded.toSource .standard)

theorem note_prepared : Prepared .lastFirst (siteOf note) .empty siteChoice
    (some "/site/note.json") noteData noteRegistry where
  read := by
    have names : (siteOf note).namesOf "/site/note.json" =
        [Text.utf8 "site"] ++ bytesOf ["note.json"] := by decide +kernel
    have spelled : (siteOf note).Spells "/site/note.json" "\x7b\n  \"text\": \"&\"\n\x7d" := by
      refine ⟨by decide, ?_⟩
      rw [names]
      exact (site_holds note).readBytes_file (f := (["note.json"], _)) (by simp [note])
    exact .value spelled noteData_read
  built := .composed (v := .standard) rfl (site_ok (compose_of_failures (by decide +kernel)))

theorem note_rendered :
    noteRegistry.render .bare "base:note" noteData = (Text.utf8 "<p>&amp;", .ok ()) := by
  decide +kernel

theorem note_leads :
    (siteOf note).Leads "/dev/stdout" (["dev", "stdout"].map Text.utf8) ∧
      (siteOf note).Leads "/site/note.json" (["site", "note.json"].map Text.utf8) := by
  have straight {first last : Bytes} (plain : ∀ n ∈ [first, last], n ≠ dotName ∧ n ≠ dotDotName)
      (dir : (siteOf note).item? [first] = some .dir)
      (file : ∃ old, (siteOf note).item? [first, last] = some (.file old)) :
      (siteOf note).writePlace FileTree.maxLinks [] [first, last] = .ok [first, last] := by
    show (siteOf note).writePlace _ [] ([first] ++ [last]) = .ok ([] ++ [first] ++ [last])
    refine FileTree.writePlace_straight _ plain ?_ ⟨by simp, .inr file⟩
    simpa [List.inits, FileTree.item?] using dir
  refine ⟨⟨by decide, by decide +kernel, by decide +kernel, ?_⟩,
    ⟨by decide, by decide +kernel, by decide +kernel, ?_⟩⟩
  · exact straight (by decide +kernel) (by decide +kernel) ⟨[], by decide +kernel⟩
  · exact straight (by decide +kernel) (by decide +kernel)
      ⟨Text.utf8 "\x7b\n  \"text\": \"&\"\n\x7d", by decide +kernel⟩

/-- The rendering of the page with its data. -/
def noteRun (host : Host) (out : Option String) : Ending :=
  runRender host (siteOf note) .empty siteChoice "base:note" (some "/site/note.json") out

theorem noteRun_prints :
    (noteRun .plain none).code = 0 ∧ (noteRun .plain none).stdout = Text.utf8 "<p>&amp;" := by
  have rendered : noteRegistry.render Host.plain.around "base:note" noteData = _ := note_rendered
  have prints : Prints .plain (siteOf note) .empty siteChoice (some "/site/note.json") "base:note"
      (noteRun .plain none) := prints_runRender _
  constructor
  · exact prints.succeeds.mpr ⟨_, _, note_prepared, by rw [rendered]⟩
  · rw [prints.prints _ _ note_prepared, rendered]

/-- The data of a rendering may be the file that is written. -/
theorem render_prints_or_saves_note :
    let rest := ["--views=/site", "--data", "/site/note.json", "--", "base:note"]
    let saving := "render" :: "-o/site/note.json" :: rest
    let printed := run .plain (siteOf note) .empty ("render" :: rest)
    let saved := run ⟨.firstFirst, .bare, .roomy⟩ (siteOf note) .empty saving
    request? ("render" :: rest) =
        some (.render siteChoice "base:note" (some "/site/note.json") none) ∧
      request? saving =
        some (.render siteChoice "base:note" (some "/site/note.json") (some "/site/note.json")) ∧
      printed.code = 0 ∧ printed.stdout = Text.utf8 "<p>&amp;" ∧ saved.code = 0 ∧
        saved.stdout = [] ∧
        (siteOf note).Written saved.tree "/site/note.json" (Text.utf8 "<p>&amp;") := by
  intro rest saving printed saved
  have printing : request? ("render" :: rest) =
      some (.render siteChoice "base:note" (some "/site/note.json") none) := by
    decide +kernel
  have writing : request? saving =
      some (.render siteChoice "base:note" (some "/site/note.json") (some "/site/note.json")) := by
    decide +kernel
  obtain ⟨-, saves, -⟩ :=
    @render_prints_or_saves .plain (siteOf note) .empty _ _ _ _ printing
  have same : printed = noteRun .plain none := run_eq printing ..
  obtain ⟨succeeds, text⟩ := same ▸ noteRun_prints
  have opens : (siteOf note).Opens .roomy "/site/note.json" _ := ⟨note_leads.2, rfl⟩
  obtain ⟨taken, ended, takes, leaves, codes⟩ :=
    (saves .firstFirst .roomy saving _ writing).opened succeeds _ opens
  have use : (siteOf note).useAt .roomy (["site", "note.json"].map Text.utf8) = .kept := by
    decide +kernel
  rw [use, FileTree.Leaves.kept_iff] at leaves
  cases takes with
  | all =>
    obtain ⟨done, -⟩ := codes.resolve_right fun ⟨_, e, he⟩ => nomatch he
    exact ⟨printing, writing, succeeds, text, done, leaves.2, text ▸ leaves.1⟩
  | part room => cases room

/-- The disk takes two bytes of a file. -/
def fullDisk : Disk := { Disk.roomy with room? := fun _ => some (2, .noSpace) }

/-- A file need not keep what is written: it may stand for the standard output, or the disk may give
out in the middle of it. -/
theorem render_saves_elsewhere :
    let rest := ["--views=/site", "--data", "/site/note.json", "base:note"]
    let out := "render" :: "--out=/dev/stdout" :: rest
    let kept := "render" :: "--out=/site/note.json" :: rest
    let full : Host := ⟨.lastFirst, .bare, fullDisk⟩
    (run .plain (siteOf note) .empty ("render" :: rest)).code = 0 ∧
      (run .plain (siteOf note) .empty out).stdout = Text.utf8 "<p>&amp;" ∧
      (run full (siteOf note) .empty kept).code = 1 ∧
      (siteOf note).Written (run full (siteOf note) .empty kept).tree "/site/note.json"
        (Text.utf8 "<p") := by
  intro rest out kept full
  obtain ⟨succeeds, text⟩ := noteRun_prints
  have printing : run .plain (siteOf note) .empty ("render" :: rest) = noteRun .plain none := by
    have parsed : request? ("render" :: rest) =
      some (.render siteChoice "base:note" (some "/site/note.json") none) := by decide +kernel
    exact run_eq parsed ..
  have device : run .plain (siteOf note) .empty out = noteRun .plain (some "/dev/stdout") := by
    have parsed : request? out = some
      (.render siteChoice "base:note" (some "/site/note.json") (some "/dev/stdout")) := by
      decide +kernel
    exact run_eq parsed ..
  have cut : run full (siteOf note) .empty kept = noteRun full (some "/site/note.json") := by
    have parsed : request? kept = some
      (.render siteChoice "base:note" (some "/site/note.json") (some "/site/note.json")) := by
      decide +kernel
    exact run_eq parsed ..
  have saves (disk : Disk) (path : String) : Saves disk (siteOf note) path (noteRun .plain none)
      (noteRun ⟨.lastFirst, .bare, disk⟩ (some path)) := saves_runRender ..
  rw [printing, device, cut]
  refine ⟨succeeds, ?_, ?_⟩
  · have opens : (siteOf note).Opens .roomy "/dev/stdout" _ := ⟨note_leads.1, rfl⟩
    obtain ⟨taken, ended, takes, leaves, -⟩ := (saves .roomy _).opened succeeds _ opens
    have use : (siteOf note).useAt .roomy (["dev", "stdout"].map Text.utf8) = .printed := by
      decide +kernel
    rw [use, FileTree.Leaves.printed_iff] at leaves
    cases takes with
    | all => exact leaves.2.trans text
    | part room => cases room
  · have opens : (siteOf note).Opens fullDisk "/site/note.json" _ := ⟨note_leads.2, rfl⟩
    obtain ⟨taken, ended, takes, leaves, codes⟩ := (saves fullDisk _).opened succeeds _ opens
    have use : (siteOf note).useAt fullDisk (["site", "note.json"].map Text.utf8) = .kept := by
      decide +kernel
    rw [use, FileTree.Leaves.kept_iff] at leaves
    rw [text] at takes
    cases takes with
    | all fits => exact absurd (fits 2 .noSpace rfl) (by decide +kernel)
    | part room =>
      cases room
      obtain ⟨failed, -⟩ := codes.resolve_left fun ⟨_, he⟩ => nomatch he
      exact ⟨failed, leaves.1⟩

end ViewWeave.Command
