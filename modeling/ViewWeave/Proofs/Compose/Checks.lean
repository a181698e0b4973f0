import ViewWeave.Proofs.Compose.Verdict
import ViewWeave.Proofs.Data.Table

/-!
# The checks of composition

Each kind of check says what fails, for one directory, file, helper or pair at a time. Next to it
stands the value that composition goes on with, which is defined also where the check fails.
-/

namespace ViewWeave

/-! ## Directories -/

namespace ViewSource

variable (source : ViewSource)

/-- The files with an extension under a directory, as far as directories can be listed. -/
def found (ext : String) : Nat → String → List String
  | 0, _ => []
  | n + 1, dir =>
    match source.list dir with
    | .error _ => []
    | .ok entries => entries.flatMap fun e =>
      if e.isDir then found ext n e.path
      else if hasExtension e.path ext then [e.path] else []

/-- The failures of listing a directory and the directories under it. A directory that lies more
than `n` levels deep is not listed any more. -/
def listFailures : Nat → String → List InitError
  | 0, dir => [.io dir .endless]
  | n + 1, dir =>
    match source.list dir with
    | .error e => [.io dir e]
    | .ok entries => entries.flatMap fun e => if e.isDir then listFailures n e.path else []

/-- What an entry of a directory adds to what is found: itself, or what is found in it. -/
def foundAt (ext : String) (n : Nat) (e : Entry) : List String :=
  if e.isDir then source.found ext n e.path else if hasExtension e.path ext then [e.path] else []

def failuresAt (n : Nat) (e : Entry) : List InitError :=
  if e.isDir then source.listFailures n e.path else []

section
variable {source : ViewSource} {ext : String} {n : Nat} {dir : String}

theorem found_of_error {e : IoError} (hl : source.list dir = .error e) :
    source.found ext (n + 1) dir = [] := by
  rw [found, hl]

theorem found_of_ok {entries : List Entry} (hl : source.list dir = .ok entries) :
    source.found ext (n + 1) dir = entries.flatMap (source.foundAt ext n) := by
  rw [found, hl]
  rfl

theorem listFailures_of_error {e : IoError} (hl : source.list dir = .error e) :
    source.listFailures (n + 1) dir = [.io dir e] := by
  rw [listFailures, hl]

theorem listFailures_of_ok {entries : List Entry} (hl : source.list dir = .ok entries) :
    source.listFailures (n + 1) dir = entries.flatMap (source.failuresAt n) := by
  rw [listFailures, hl]
  rfl

theorem mem_foundAt {e : Entry} {x : String} : x ∈ source.foundAt ext n e ↔
    if e.isDir then x ∈ source.found ext n e.path else x = e.path ∧ hasExtension x ext := by
  unfold foundAt
  by_cases hd : e.isDir
  · rw [if_pos hd, if_pos hd]
  · rw [if_neg hd, if_neg hd]
    split
    · rename_i suffix
      rw [List.mem_singleton]
      exact ⟨fun hx => ⟨hx, hx ▸ suffix⟩, fun hx => hx.1⟩
    · rename_i suffix
      exact ⟨fun hx => absurd hx List.not_mem_nil, fun hx => absurd (hx.1 ▸ hx.2) suffix⟩

theorem mem_failuresAt {e : Entry} {f : InitError} :
    f ∈ source.failuresAt n e ↔ e.isDir ∧ f ∈ source.listFailures n e.path := by
  unfold failuresAt
  by_cases hd : e.isDir <;> simp [hd]

theorem mem_found_succ {x : String} {entries : List Entry} (hl : source.list dir = .ok entries) :
    x ∈ source.found ext (n + 1) dir ↔ ∃ e ∈ entries,
      if e.isDir then x ∈ source.found ext n e.path else x = e.path ∧ hasExtension x ext := by
  rw [found_of_ok hl, List.mem_flatMap]
  exact exists_congr fun e => and_congr_right fun _ => mem_foundAt

end

theorem fragmentsIn_eq_verdict (ext : String) :
    ∀ (n : Nat) (dir : String),
      source.fragmentsIn ext n dir = verdict (source.listFailures n dir) (source.found ext n dir)
  | 0, _ => rfl
  | n + 1, dir => by
    unfold fragmentsIn
    cases hl : source.list dir with
    | error e =>
      rw [listFailures_of_error hl]
      rfl
    | ok entries =>
      have each : ∀ e ∈ entries,
          (if e.isDir then source.fragmentsIn ext n e.path
            else .ok (if hasExtension e.path ext then [e.path] else [])) =
          verdict (source.failuresAt n e) (source.foundAt ext n e) := by
        intro e _
        unfold failuresAt foundAt
        by_cases he : e.isDir
        · rw [if_pos he, if_pos he, if_pos he]
          exact fragmentsIn_eq_verdict ext n e.path
        · rw [if_neg he, if_neg he, if_neg he]
          rfl
      dsimp only
      rw [listFailures_of_ok hl, found_of_ok hl, mapM_verdict each, verdict_map]
      rfl

/-- A chain of `n` directories, each one listed in the one before, leads from one to another. -/
inductive Nested : Nat → String → String → Prop
  | refl (dir : String) : Nested 0 dir dir
  | step {n : Nat} {dir last : String} {entries : List Entry} {e : Entry} :
    source.list dir = .ok entries → e ∈ entries → e.isDir → Nested n e.path last →
      Nested (n + 1) dir last

/-- What fails at the end of a chain fails from its start, with so many levels more. -/
theorem Nested.listFailures_subset {m k : Nat} {dir last : String}
    (chain : source.Nested k dir last) :
    source.listFailures m last ⊆ source.listFailures (m + k) dir := by
  induction chain with
  | refl dir => exact List.Subset.refl _
  | step hl he hd _ ih =>
    intro f hf
    show f ∈ source.listFailures (m + _ + 1) _
    rw [listFailures_of_ok hl]
    exact List.mem_flatMap.mpr ⟨_, he, mem_failuresAt.mpr ⟨hd, ih hf⟩⟩

theorem exists_nested_of_mem {f : InitError} :
    ∀ {n : Nat} {dir : String}, f ∈ source.listFailures n dir →
    (∃ k < n, ∃ last e, source.Nested k dir last ∧ source.list last = .error e ∧ f = .io last e) ∨
      ∃ last, source.Nested n dir last ∧ f = .io last .endless
  | 0, dir, h => .inr ⟨dir, .refl dir, List.mem_singleton.mp h⟩
  | n + 1, dir, h => by
    cases hl : source.list dir with
    | error e =>
      rw [listFailures_of_error hl] at h
      exact .inl ⟨0, Nat.succ_pos n, dir, e, .refl dir, hl, List.mem_singleton.mp h⟩
    | ok entries =>
      rw [listFailures_of_ok hl] at h
      obtain ⟨e, he, h⟩ := List.mem_flatMap.mp h
      -- only directories add failures, each one step further from where the chain starts
      obtain ⟨hd, h⟩ := mem_failuresAt.mp h
      rcases exists_nested_of_mem h with ⟨k, hk, last, e', chain, he', rfl⟩ | ⟨last, chain, rfl⟩
      · exact .inl ⟨k + 1, Nat.succ_lt_succ hk, last, e', .step hl he hd chain, he', rfl⟩
      · exact .inr ⟨last, .step hl he hd chain, rfl⟩

/-- What fails while directories are listed: a directory that is reached, and either cannot be
listed itself or lies too deep. -/
theorem mem_listFailures_iff {f : InitError} {n : Nat} {dir : String} :
    f ∈ source.listFailures n dir ↔
    (∃ k < n, ∃ last e, source.Nested k dir last ∧ source.list last = .error e ∧ f = .io last e) ∨
      ∃ last, source.Nested n dir last ∧ f = .io last .endless := by
  refine ⟨source.exists_nested_of_mem, ?_⟩
  rintro (⟨k, hk, last, e, chain, he, rfl⟩ | ⟨last, chain, rfl⟩)
  · obtain ⟨m, rfl⟩ := Nat.exists_eq_add_of_lt hk
    have here : .io last e ∈ source.listFailures (m + 1) last := by
      rw [listFailures_of_error he]
      exact List.mem_singleton_self _
    have start := chain.listFailures_subset source here
    rwa [Nat.add_comm] at start
  · have here : .io last .endless ∈ source.listFailures 0 last := List.mem_singleton_self _
    have start := chain.listFailures_subset source here
    rwa [Nat.zero_add] at start

/-! ## Files -/

def readFailures (path : String) : List InitError :=
  match source.read path with
  | .error e => [.io path e]
  | .ok _ => []

def text (path : String) : String := (source.read path).toOption.getD ""

theorem content_eq_verdict (path : String) :
    source.content path = verdict (source.readFailures path) (source.text path) := by
  unfold content readFailures text
  cases source.read path <;> rfl

theorem read_eq_text {path : String} (h : source.readFailures path = []) :
    source.read path = .ok (source.text path) := by
  unfold readFailures at h
  unfold text
  cases hr : source.read path with
  | error e =>
    rw [hr] at h
    exact absurd h (List.cons_ne_nil _ _)
  | ok s => rfl

end ViewSource

namespace ViewLayout

variable (v : ViewLayout)

def nameFailures (role : Role) (path : String) : List InitError :=
  match v.short? role path with
  | none => [.missingMarker path role]
  | some _ => []

def short (role : Role) (path : String) : String := (v.short? role path).getD ""

theorem short?_eq_short {role : Role} {path : String} (h : v.nameFailures role path = []) :
    v.short? role path = some (v.short role path) := by
  unfold nameFailures at h
  unfold short
  cases hs : v.short? role path with
  | none =>
    rw [hs] at h
    exact absurd h (List.cons_ne_nil _ _)
  | some s => rfl

theorem named_eq_verdict (role : Role) (paths : List String) :
    v.named role paths =
      verdict (paths.flatMap (v.nameFailures role)) (paths.map fun p => (v.short role p, p)) := by
  refine mapM_verdict fun path _ => ?_
  unfold nameFailures short
  cases v.short? role path <;> rfl

end ViewLayout

def namedFragment (source : ViewSource) (v : ViewLayout) (role : Role) (path : String) :
    NamedFragment :=
  ⟨v.short role path, ⟨path, role, source.text path⟩⟩

/-- All names are checked before the first file is read. -/
theorem namedFragments_eq_verdict (source : ViewSource) (v : ViewLayout) (role : Role)
    (paths : List String) :
    namedFragments source v role paths =
      verdict (paths.flatMap (v.nameFailures role) ++ paths.flatMap source.readFailures)
        (paths.map (namedFragment source v role)) := by
  unfold namedFragments
  rw [v.named_eq_verdict]
  refine verdict_bind fun _ => ?_
  have each : ∀ p ∈ paths.map fun p => (v.short role p, p),
      (do return ⟨p.1, ⟨p.2, role, ← source.content p.2⟩⟩) =
        verdict (source.readFailures p.2)
          (⟨p.1, ⟨p.2, role, source.text p.2⟩⟩ : NamedFragment) := by
    intro p _
    rw [source.content_eq_verdict]
    exact verdict_map _
  rw [mapM_verdict each, List.flatMap_map, List.map_map]
  rfl

/-! ## Helpers -/

def Helpers.failures (helpers : Helpers) : List InitError :=
  (helpers.names.filter fun n => !isHelperName n).map .invalidHelperName

theorem Helpers.check_eq_verdict (helpers : Helpers) :
    helpers.check = verdict helpers.failures () := by
  unfold check invalidName? failures
  induction helpers.names with
  | nil => rfl
  | cons n ns ih =>
    by_cases hn : isHelperName n
    · simpa [hn] using ih
    · simp [hn, verdict]

theorem Helpers.names_ascending (helpers : Helpers) : helpers.names.Pairwise (· < ·) :=
  List.pairwise_map.mpr helpers.ascending

end ViewWeave
