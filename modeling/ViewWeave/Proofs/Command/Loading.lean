import ViewWeave.Command.Run
import ViewWeave.Proofs.Text.Decoding

/-!
# What a command reads

The data and the view layout of a command are read from files. Each step of the reading may fail,
and the way it fails is told with the error of that step.
-/

namespace ViewWeave

/-! ## Texts in files -/

namespace FileTree

/-- A path leads to a file that spells a text. -/
structure Spells (t : FileTree) (path text : String) : Prop where
  nonempty : path ≠ ""
  bytes : t.readBytes (t.namesOf path) = .ok (Text.utf8 text)

/-- Why a path leads to no text. -/
inductive Unread (t : FileTree) (path : String) : IoError → Prop
  | nameless (h : path = "") : Unread t path .noEntry
  | unreadable {e : IoError} (nonempty : path ≠ "")
    (h : t.readBytes (t.namesOf path) = .error e) : Unread t path e
  | noText {bytes : Bytes} (nonempty : path ≠ "") (h : t.readBytes (t.namesOf path) = .ok bytes)
    (none : ∀ text, Text.utf8 text ≠ bytes) : Unread t path .badText

theorem readFile_eq_ok_iff {t : FileTree} {path text : String} :
    t.readFile path = .ok text ↔ t.Spells path text := by
  unfold readFile readText
  constructor
  · intro h
    split at h
    · cases h
    rename_i nonempty
    cases hb : t.readBytes (t.namesOf path) with
    | error e =>
      rw [hb] at h
      cases h
    | ok bytes =>
      rw [hb] at h
      simp only [bind, Except.bind] at h
      split at h
      · rename_i s hd
        cases h
        exact ⟨by simpa using nonempty, hb.trans (by rw [Text.decode?_eq_some_iff.mp hd])⟩
      · cases h
  · rintro ⟨nonempty, bytes⟩
    rw [if_neg (by simpa using nonempty), bytes]
    simp only [bind, Except.bind]
    rw [Text.decode?_utf8]

theorem readFile_eq_error_iff {t : FileTree} {path : String} {e : IoError} :
    t.readFile path = .error e ↔ t.Unread path e := by
  unfold readFile readText
  constructor
  · intro h
    split at h
    · rename_i nameless
      cases h
      exact .nameless (by simpa using nameless)
    rename_i nonempty
    have nonempty : path ≠ "" := by simpa using nonempty
    cases hb : t.readBytes (t.namesOf path) with
    | error e =>
      rw [hb] at h
      cases h
      exact .unreadable nonempty hb
    | ok bytes =>
      rw [hb] at h
      simp only [bind, Except.bind] at h
      split at h
      · cases h
      · rename_i none
        cases h
        refine .noText nonempty hb fun text same => ?_
        rw [Text.decode?_eq_some_iff.mpr same] at none
        cases none
  · intro h
    cases h with
    | nameless nameless => rw [if_pos (by simpa using nameless)]
    | unreadable nonempty failed =>
      rw [if_neg (by simpa using nonempty), failed]
      rfl
    | noText nonempty read none =>
      rw [if_neg (by simpa using nonempty), read]
      simp only [bind, Except.bind]
      cases hd : Text.decode? _ with
      | none => rfl
      | some text => exact absurd (Text.decode?_eq_some_iff.mp hd) (none text)

end FileTree

/-! ## Values in files -/

/-- What a file is read as, where its text is read by `parse` and failures are told. -/
inductive Loaded {α ε τ : Type} (tree : FileTree) (path : String) (parse : String → Except ε α)
    (unread : IoError → τ) (malformed : ε → τ) : Except τ α → Prop
  | unread {e : IoError} (h : tree.Unread path e) :
    Loaded tree path parse unread malformed (.error (unread e))
  | malformed {text : String} {e : ε} (h : tree.Spells path text) (wrong : parse text = .error e) :
    Loaded tree path parse unread malformed (.error (malformed e))
  | value {text : String} {a : α} (h : tree.Spells path text) (read : parse text = .ok a) :
    Loaded tree path parse unread malformed (.ok a)

theorem loaded_iff {α ε τ : Type} {tree : FileTree} {path : String} {parse : String → Except ε α}
    {unread : IoError → τ} {malformed : ε → τ} {result : Except τ α} :
    (do (parse (← (tree.readFile path).mapError unread)).mapError malformed) = result ↔
      Loaded tree path parse unread malformed result := by
  constructor
  · rintro rfl
    cases hr : tree.readFile path with
    | error e => exact .unread (FileTree.readFile_eq_error_iff.mp hr)
    | ok text =>
      have spelled := FileTree.readFile_eq_ok_iff.mp hr
      simp only [Except.mapError, bind, Except.bind]
      cases hp : parse text with
      | error e => exact .malformed spelled hp
      | ok a => exact .value spelled hp
  · intro h
    cases h with
    | unread unread =>
      rw [FileTree.readFile_eq_error_iff.mpr unread]
      rfl
    | malformed spelled wrong =>
      rw [FileTree.readFile_eq_ok_iff.mpr spelled]
      simp only [Except.mapError, bind, Except.bind]
      rw [wrong]
    | value spelled read =>
      rw [FileTree.readFile_eq_ok_iff.mpr spelled]
      simp only [Except.mapError, bind, Except.bind]
      rw [read]

namespace Command

/-- What the data of a rendering are read as: an empty object if no file is given, or else the value
that the file spells. -/
def DataRead (tree : FileTree) : Option String → Except Trouble Value → Prop
  | none, result => result = .ok (.obj [])
  | some path, result =>
    Loaded tree path Data.read (fun e => ⟨s!"cannot read data file '{path}'", [e.message]⟩)
      (fun e => ⟨s!"data file '{path}' is not valid JSON", [e.message]⟩) result

theorem loadData_eq_iff {tree : FileTree} {data : Option String} {result : Except Trouble Value} :
    loadData tree data = result ↔ DataRead tree data result := by
  cases data with
  | none => exact eq_comm
  | some path => exact loaded_iff

/-- What the view layout of a command is read as. -/
def LayoutRead (tree : FileTree) : Option String → Except Trouble ViewLayout → Prop
  | none, result => result = .ok .standard
  | some path, result =>
    Loaded tree path ViewLayout.ofText (fun e => ⟨(LayoutError.io path e).message, [e.message]⟩)
      (fun fault => ⟨(LayoutError.parse path fault).message, [fault.message]⟩) result

theorem loadLayout_eq_iff {tree : FileTree} {c : ViewChoice} {result : Except Trouble ViewLayout} :
    c.loadLayout tree = result ↔ LayoutRead tree c.layout result := by
  unfold ViewChoice.loadLayout
  cases c.layout with
  | none => exact eq_comm
  | some path =>
    dsimp only
    refine Iff.trans ?_ loaded_iff
    unfold ViewLayout.load
    cases tree.readFile path with
    | error e => rfl
    | ok text =>
      simp only [Except.mapError, bind, Except.bind]
      cases ViewLayout.ofText text <;> rfl

/-! ## Views -/

/-- What a choice of views is composed to. -/
inductive Built (order : WalkOrder) (tree : FileTree) (helpers : Helpers) (c : ViewChoice) :
    Except Trouble Registry → Prop
  | noLayout {t : Trouble} (h : LayoutRead tree c.layout (.error t)) :
    Built order tree helpers c (.error t)
  | failed {v : ViewLayout} {e : InitError} (h : LayoutRead tree c.layout (.ok v))
    (failed : (compose order (c.source tree) v helpers).run.1 = .error e) :
    Built order tree helpers c (.error (c.trouble e))
  | composed {v : ViewLayout} {r : Registry} (h : LayoutRead tree c.layout (.ok v))
    (composed : (compose order (c.source tree) v helpers).run.1 = .ok r) :
    Built order tree helpers c (.ok r)

theorem build_eq_iff {order : WalkOrder} {tree : FileTree} {helpers : Helpers} {c : ViewChoice}
    {result : Except Trouble Registry} :
    c.build order tree helpers = result ↔ Built order tree helpers c result := by
  unfold ViewChoice.build
  constructor
  · rintro rfl
    cases hl : c.loadLayout tree with
    | error t => exact .noLayout (loadLayout_eq_iff.mp hl)
    | ok v =>
      have read := loadLayout_eq_iff.mp hl
      simp only [bind, Except.bind]
      cases hc : (compose order (c.source tree) v helpers).run.1 with
      | error e => exact .failed read hc
      | ok r => exact .composed read hc
  · intro h
    cases h with
    | noLayout h =>
      rw [loadLayout_eq_iff.mpr h]
      rfl
    | failed h failed =>
      rw [loadLayout_eq_iff.mpr h]
      simp only [bind, Except.bind]
      rw [failed]
      rfl
    | composed h composed =>
      rw [loadLayout_eq_iff.mpr h]
      simp only [bind, Except.bind]
      rw [composed]
      rfl

end Command

end ViewWeave
