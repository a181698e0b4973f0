import ViewWeave.Proofs.Source.Disk
import ViewWeave.Source.Writing
import Mathlib.Data.List.Infix

/-!
# Writing a file

A file is written at the one place that its path leads to. Afterwards the path leads there, the file
holds what was taken of the bytes, and all other places hold what they held before.
-/

namespace ViewWeave

/-! ## Items -/

theorem lookup_put_self {α β : Type} [BEq α] [LawfulBEq α] {k : α} {v : β} :
    ∀ {l : List (α × β)}, (l.filter (fun e => e.1 != k) ++ [(k, v)]).lookup k = some v
  | [] => by simp
  | (k', v') :: l => by
    have rest := lookup_put_self (k := k) (v := v) (l := l)
    by_cases h : k' = k
    · rwa [List.filter_cons_of_neg (by simp [h])]
    · rwa [List.filter_cons_of_pos (by simpa using h), List.cons_append, List.lookup_cons,
        beq_eq_false_iff_ne.mpr (Ne.symm h)]

theorem lookup_put_of_ne {α β : Type} [BEq α] [LawfulBEq α] {k p : α} {v : β} (hp : p ≠ k) :
    ∀ {l : List (α × β)}, (l.filter (fun e => e.1 != k) ++ [(k, v)]).lookup p = l.lookup p
  | [] => by simp [List.lookup_cons, beq_eq_false_iff_ne.mpr hp]
  | (k', v') :: l => by
    have rest := lookup_put_of_ne (k := k) (v := v) hp (l := l)
    by_cases h : k' = k
    · subst h
      rwa [List.filter_cons_of_neg (by simp), List.lookup_cons, beq_eq_false_iff_ne.mpr hp]
    · rw [List.filter_cons_of_pos (by simpa using h), List.cons_append, List.lookup_cons, rest,
        List.lookup_cons]

namespace FileTree

variable {t : FileTree} {place : List Bytes}

theorem item?_put (h : place ≠ []) (i : Item) : (t.put place i).item? place = some i := by
  unfold item? put
  rw [if_neg (by simpa using h), lookup_put_self]

theorem item?_put_of_ne {p : List Bytes} (h : p ≠ place) (i : Item) :
    (t.put place i).item? p = t.item? p := by
  unfold item? put
  rw [lookup_put_of_ne h]

/-- What was put at a place first is gone. -/
theorem put_put (i j : Item) : (t.put place i).put place j = t.put place j := by
  simp [put, List.filter_append, List.filter_filter]

/-! ## Places -/

/-- A file may be put here: nothing lies here, or a file that it takes the place of. -/
def TakesFile (t : FileTree) (place : List Bytes) : Prop :=
  place ≠ [] ∧ (t.item? place = none ∨ ∃ old, t.item? place = some (.file old))

/-- Directories and links stay where they are. -/
theorem TakesFile.item?_put (h : t.TakesFile place) (i : Item) {p : List Bytes} {j : Item}
    (other : ∀ content, j ≠ .file content) (hp : t.item? p = some j) :
    (t.put place i).item? p = some j := by
  rw [item?_put_of_ne _ i, hp]
  intro same
  obtain ⟨-, hn | ⟨old, ho⟩⟩ := h
  · cases (same ▸ hn).symm.trans hp
  · exact other old (Option.some.inj (hp.symm.trans (same ▸ ho)))

theorem takesFile_writePlace {links : Nat} {here names : List Bytes}
    (h : t.writePlace links here names = .ok place) : t.TakesFile place := by
  fun_induction writePlace t links here names with
  | case2 _ _ _ _ ih => exact ih h
  | case4 _ _ _ _ _ _ ih => exact ih h
  | case5 _ here name _ _ _ _ item =>
    cases h
    exact ⟨by simp, .inl item⟩
  | case7 _ here name _ _ _ _ old item =>
    cases h
    exact ⟨by simp, .inr ⟨old, item⟩⟩
  | case11 _ _ _ _ _ _ _ _ _ _ ih => exact ih h
  | case12 _ _ _ _ _ _ _ _ ih => exact ih h
  | _ => cases h

theorem walk_put {links : Nat} {here names : List Bytes}
    (h : t.writePlace links here names = .ok place) (content : Bytes) :
    (t.put place (.file content)).walk links here names = .ok place := by
  have takes := takesFile_writePlace h
  have dir {p : List Bytes} (hp : t.item? p = some .dir) :=
    takes.item?_put (.file content) (by simp) hp
  have link {p : List Bytes} {target : Bytes} (hp : t.item? p = some (.link target)) :=
    takes.item?_put (.file content) (by simp) hp
  have put := item?_put (t := t) takes.1 (.file content)
  -- every step but the last leads through a directory or a link, and those are kept
  fun_induction writePlace t links here names with
  | case2 _ here _ hd ih =>
    rw [walk, dir hd]
    simpa using ih h
  | case4 _ here _ hd top other ih =>
    rw [walk, dir hd]
    simpa [top, other] using ih h
  | case5 _ here name rest hd notHere notAbove _ last =>
    cases h
    rw [List.isEmpty_iff.mp last, walk, dir hd]
    simp [notHere, notAbove, put, walk]
  | case7 _ here name rest hd notHere notAbove _ _ last =>
    cases h
    rw [List.isEmpty_iff.mp last, walk, dir hd]
    simp [notHere, notAbove, put, walk]
  | case11 here name rest hd notHere notAbove target hl _ within ih =>
    rw [walk, dir hd]
    simpa [notHere, notAbove, within, link hl] using ih h
  | case12 _ here name rest hd notHere notAbove sub ih =>
    rw [walk, dir hd]
    simpa [notHere, notAbove, dir sub] using ih h
  | _ => cases h

/-! ## Files -/

/-- The file that a path leads to was written, and nothing else changed. -/
structure Written (before after : FileTree) (path : String) (content : Bytes) : Prop where
  reads : after.readBytes (after.namesOf path) = .ok content
  only : ∃ place, after.find (after.namesOf path) = .ok place ∧ before.TakesFile place ∧
    ∀ other, other ≠ place → after.item? other = before.item? other
  here : after.here = before.here

theorem written_put {path : String} (plain : (t.namesOf path).any (·.contains 0) = false)
    (h : t.writePlace maxLinks [] (t.namesOf path) = .ok place) (content : Bytes) :
    t.Written (t.put place (.file content)) path content := by
  have takes := takesFile_writePlace h
  have leads : (t.put place (.file content)).find (t.namesOf path) = .ok place := by
    unfold find
    rw [plain]
    exact walk_put h content
  have reads : (t.put place (.file content)).readBytes (t.namesOf path) = .ok content := by
    unfold readBytes
    rw [leads]
    simp only [bind, Except.bind]
    rw [item?_put takes.1]
  exact ⟨reads, ⟨place, leads, takes, fun other ho => item?_put_of_ne ho _⟩, rfl⟩

/-- A path that may be written leads to a place: it holds no zero byte, does not end in a slash, and
goes through directories that exist. -/
structure Leads (t : FileTree) (path : String) (place : List Bytes) : Prop where
  nonempty : path ≠ ""
  plain : (t.namesOf path).any (·.contains 0) = false
  noSlash : (Text.utf8 path).getLast? ≠ some slashByte
  place : t.writePlace maxLinks [] (t.namesOf path) = .ok place

/-- Through directories, past no link, a path leads to its last name. -/
theorem writePlace_straight (links : Nat) {last : Bytes} : ∀ {names here : List Bytes},
    (∀ n ∈ names ++ [last], n ≠ dotName ∧ n ≠ dotDotName) →
      (∀ a ∈ names.inits, t.item? (here ++ a) = some .dir) →
        t.TakesFile (here ++ names ++ [last]) →
          t.writePlace links here (names ++ [last]) = .ok (here ++ names ++ [last])
  | [], here, plain, dirs, takes => by
    obtain ⟨notHere, notAbove⟩ := plain last (by simp)
    have dir : t.item? here = some .dir := by simpa using dirs [] (by simp)
    rw [List.append_nil] at takes ⊢
    rw [List.nil_append, writePlace]
    obtain ⟨-, none | ⟨old, file⟩⟩ := takes
    · simp [dir, notHere, notAbove, none]
    · simp [dir, notHere, notAbove, file]
  | n :: names, here, plain, dirs, takes => by
    obtain ⟨notHere, notAbove⟩ := plain n (by simp)
    have dir : t.item? here = some .dir := by simpa using dirs [] (by simp)
    have sub : t.item? (here ++ [n]) = some .dir := dirs [n] ((List.mem_inits ..).mpr ⟨names, rfl⟩)
    have rest : here ++ n :: names = here ++ [n] ++ names := by simp
    rw [rest] at takes ⊢
    rw [List.cons_append, writePlace]
    simp only [dir, notHere, notAbove, sub, if_false]
    refine writePlace_straight links (fun m hm => plain m (List.mem_cons_of_mem _ hm))
      (fun a ha => ?_) takes
    rw [List.append_assoc]
    exact dirs (n :: a) (by simpa using ha)

theorem place?_eq_ok_iff {path : String} : t.place? path = .ok place ↔ t.Leads path place := by
  unfold place?
  constructor
  · intro h
    split at h
    · cases h
    rename_i nonempty
    dsimp only at h
    split at h
    · cases h
    rename_i plain
    split at h
    · -- a path that ends in a slash is never written
      split at h
      · split at h <;> cases h
      · cases h
    rename_i noSlash
    exact ⟨by simpa using nonempty, by simpa using plain, noSlash, h⟩
  · rintro ⟨nonempty, plain, noSlash, leads⟩
    rw [if_neg (by simpa using nonempty)]
    dsimp only
    rw [plain, if_neg Bool.false_ne_true, if_neg noSlash, leads]

/-! ## Opening and filling -/

/-- The file that a path leads to is opened when it is to be written. -/
structure Opens (t : FileTree) (disk : Disk) (path : String) (place : List Bytes) : Prop where
  leads : t.Leads path place
  granted : disk.refusal? place = none

/-- What a file takes of some bytes, and how writing them ends. -/
inductive Takes (disk : Disk) (place : List Bytes) (content : Bytes) :
    Bytes → Except IoError Unit → Prop
  | all (fits : ∀ n e, disk.room? place = some (n, e) → content.length ≤ n) :
    Takes disk place content content (.ok ())
  | part {n : Nat} {e : IoError} (room : disk.room? place = some (n, e))
    (more : n < content.length) : Takes disk place content (content.take n) (.error e)

theorem takes_take (disk : Disk) (place : List Bytes) (content : Bytes) :
    Takes disk place content (disk.take place content).1 (disk.take place content).2 := by
  unfold Disk.take
  cases hr : disk.room? place with
  | none => exact .all fun n e h => by cases hr.symm.trans h
  | some room =>
    obtain ⟨n, e⟩ := room
    by_cases fits : content.length ≤ n
    · dsimp only
      rw [if_pos fits]
      refine .all fun m f h => ?_
      cases hr.symm.trans h
      exact fits
    · dsimp only
      rw [if_neg fits]
      exact .part hr (Nat.lt_of_not_le fits)

theorem Takes.unique {disk : Disk} {content a b : Bytes} {x y : Except IoError Unit}
    (ha : Takes disk place content a x) (hb : Takes disk place content b y) : a = b ∧ x = y := by
  cases ha with
  | all fits =>
    cases hb with
    | all => exact ⟨rfl, rfl⟩
    | part room more => exact absurd more (Nat.not_lt.mpr (fits _ _ room))
  | part room more =>
    cases hb with
    | all fits => exact absurd more (Nat.not_lt.mpr (fits _ _ room))
    | part room' _ =>
      cases room.symm.trans room'
      exact ⟨rfl, rfl⟩

/-- What is left after bytes were taken, in the tree and on the standard output. -/
inductive Leaves (t : FileTree) (path : String) (taken : Bytes) : Use → FileTree → Bytes → Prop
  | kept {after : FileTree} (written : t.Written after path taken) :
    Leaves t path taken .kept after []
  | printed : Leaves t path taken .printed t taken
  | dropped : Leaves t path taken .dropped t []

theorem Leaves.kept_iff {path : String} {taken printed : Bytes} {after : FileTree} :
    t.Leaves path taken .kept after printed ↔ t.Written after path taken ∧ printed = [] := by
  constructor
  · rintro ⟨written⟩
    exact ⟨written, rfl⟩
  · rintro ⟨written, rfl⟩
    exact .kept written

theorem Leaves.printed_iff {path : String} {taken printed : Bytes} {after : FileTree} :
    t.Leaves path taken .printed after printed ↔ after = t ∧ printed = taken := by
  constructor
  · rintro ⟨⟩
    exact ⟨rfl, rfl⟩
  · rintro ⟨rfl, rfl⟩
    exact .printed

/-- A file that is not opened leaves everything as it was. -/
theorem write_unopened {disk : Disk} {path : String} (h : ∀ place, ¬t.Opens disk path place)
    (content : Bytes) : ∃ e, t.write disk path content = ⟨t, [], .error e⟩ := by
  suffices shut : ∃ e, t.openAt disk path = .error e by
    obtain ⟨e, he⟩ := shut
    refine ⟨e, ?_⟩
    unfold write
    rw [he]
  unfold openAt
  cases hp : t.place? path with
  | error e => exact ⟨e, rfl⟩
  | ok place =>
    simp only [bind, Except.bind]
    cases hr : disk.refusal? place with
    | none => exact absurd ⟨place?_eq_ok_iff.mp hp, hr⟩ (h place)
    | some e => exact ⟨e, rfl⟩

theorem openAt_of_opens {disk : Disk} {path : String} (h : t.Opens disk path place) :
    t.openAt disk path = .ok (match t.useAt disk place with
      | .kept => ⟨t.put place (.file []), place, .kept⟩
      | use => ⟨t, place, use⟩) := by
  unfold openAt
  rw [place?_eq_ok_iff.mpr h.leads]
  simp only [bind, Except.bind]
  rw [h.granted]
  cases t.useAt disk place <;> rfl

/-- **One file.** A file that is opened holds then what it took, or hands it on if it stands for a
device; nothing else changes. -/
theorem write_opened {disk : Disk} {path : String} (h : t.Opens disk path place) (content : Bytes) :
    ∃ taken, Takes disk place content taken (t.write disk path content).ended ∧
      Leaves t path taken (t.useAt disk place) (t.write disk path content).tree
        (t.write disk path content).printed := by
  have takes := takes_take disk place content
  have written (taken : Bytes) := written_put h.leads.plain h.leads.place taken
  unfold write
  rw [openAt_of_opens h]
  cases t.useAt disk place with
  | kept =>
    refine ⟨_, takes, .kept ?_⟩
    show t.Written ((t.put place (.file [])).put place (.file _)) path _
    rw [put_put]
    exact written _
  | printed => exact ⟨_, takes, .printed⟩
  | dropped => exact ⟨_, takes, .dropped⟩

/-! ## Trees beside the file -/

/-- What is put outside of a directory does not matter to it. -/
theorem HoldsAt.put {top : List Bytes} {v : ViewTree} (h : t.HoldsAt top v) (above : ¬place <+: top)
    (below : ¬top <+: place) (i : Item) : (t.put place i).HoldsAt top v where
  names := h.names
  above a b ha := by
    rw [item?_put_of_ne _ i]
    · exact h.above a b ha
    · rintro rfl
      exact above ⟨b, ha.symm⟩
  distinct := by
    have keys : (t.items.filter fun e => e.1 != place).map (·.1) =
        (t.items.map (·.1)).filter (· != place) := by
      rw [List.filter_map]
      rfl
    show ((t.items.filter fun e => e.1 != place) ++ [(place, i)]).map (·.1) |>.Nodup
    rw [List.map_append, keys, List.nodup_append]
    refine ⟨h.distinct.filter _, List.nodup_singleton _, fun p hp q hq => ?_⟩
    rw [List.map_singleton, List.mem_singleton] at hq
    simpa [hq] using (List.mem_filter.mp hp).2
  below q hq j := by
    have apart : top ++ q ≠ place := fun same => below ⟨q, same⟩
    rw [← h.below q hq j]
    simp [FileTree.put, apart]

end FileTree

end ViewWeave
