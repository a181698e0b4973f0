import ViewWeave.Command.Arguments
import Mathlib.Data.List.Basic

/-!
# Command lines with more in front

Arguments are read one after the other, and what was given before them matters only where an option
would be given twice. So a command line stays one when more is given in front of it, and options
that one command takes are taken by every command that knows them.
-/

namespace ViewWeave.Command

/-- Reading arguments goes from what is given, perhaps with an option that waits for its value, to
what is given at their end. -/
inductive Gathers (verb : Verb) : Given → Option Opt → List String → Given → Prop
  | done (g : Given) : Gathers verb g none [] g
  | value {g g₁ last : Given} {o : Opt} {arg : String} {rest : List String} :
    isValue arg → g.putPath o arg = some g₁ → Gathers verb g₁ none rest last →
      Gathers verb g (some o) (arg :: rest) last
  | names {g last : Given} {rest : List String} :
    rest.foldlM (fun g n => Given.putName g verb n) g = some last →
      Gathers verb g none ("--" :: rest) last
  | taken {g g₁ last : Given} {arg : String} {rest : List String} :
    arg ≠ "--" → take verb g arg = .done g₁ → Gathers verb g₁ none rest last →
      Gathers verb g none (arg :: rest) last
  | waiting {g last : Given} {o : Opt} {arg : String} {rest : List String} :
    arg ≠ "--" → take verb g arg = .waiting o → Gathers verb g (some o) rest last →
      Gathers verb g none (arg :: rest) last

theorem Gathers.takeAll_eq {verb : Verb} {g last : Given} {w : Option Opt} {args : List String}
    (h : Gathers verb g w args last) : takeAll verb g w args = last.request? verb := by
  induction h with
  | done g => rfl
  | value hv hp _ ih => simp [takeAll, hv, hp, ih]
  | names hf => simp [takeAll, hf]
  | taken ha ht _ ih => simp [takeAll, ha, ht, ih]
  | waiting ha ht _ ih => simp [takeAll, ha, ht, ih]

/-- Arguments that make a request other than for help are read to their end. -/
theorem gathers_of_takeAll {verb : Verb} {r : Request} (hr : r ≠ .help) :
    ∀ {args : List String} {g : Given} {w : Option Opt}, takeAll verb g w args = some r →
      ∃ last, Gathers verb g w args last ∧ last.request? verb = some r
  | [], g, none, h => ⟨g, .done g, by simpa [takeAll] using h⟩
  | [], g, some o, h => by simp [takeAll] at h
  | arg :: rest, g, some o, h => by
    simp only [takeAll, Option.ite_none_right_eq_some, Option.bind_eq_some_iff] at h
    obtain ⟨hv, g₁, hp, h⟩ := h
    obtain ⟨last, hl, hq⟩ := gathers_of_takeAll hr h
    exact ⟨last, .value hv hp hl, hq⟩
  | arg :: rest, g, none, h => by
    simp only [takeAll] at h
    by_cases ha : arg = "--"
    · subst ha
      rw [if_pos rfl, Option.bind_eq_some_iff] at h
      obtain ⟨last, hf, hq⟩ := h
      exact ⟨last, .names hf, hq⟩
    rw [if_neg ha] at h
    cases ht : take verb g arg with
    | done g₁ =>
      rw [ht] at h
      obtain ⟨last, hl, hq⟩ := gathers_of_takeAll hr h
      exact ⟨last, .taken ha ht hl, hq⟩
    | waiting o =>
      rw [ht] at h
      obtain ⟨last, hl, hq⟩ := gathers_of_takeAll hr h
      exact ⟨last, .waiting ha ht hl, hq⟩
    | help =>
      rw [ht] at h
      exact absurd (Option.some.inj h).symm hr
    | refused =>
      rw [ht] at h
      cases h

/-! ## Options given -/

def Given.has (g : Given) (o : Opt) : Prop := (g.options.lookup o).isSome

theorem Given.put_eq_some {g g₁ : Given} {o : Opt} {v : String} :
    g.put o v = some g₁ ↔ ¬g.has o ∧ g₁ = ⟨(o, v) :: g.options, g.names⟩ := by
  unfold put has
  by_cases h : (g.options.lookup o).isSome <;> simp [h, eq_comm]

theorem Given.putPath_eq_some {g g₁ : Given} {o : Opt} {v : String} :
    g.putPath o v = some g₁ ↔ v ≠ "" ∧ g.put o v = some g₁ := by
  unfold putPath
  by_cases h : v = "" <;> simp [h]

/-- What a single argument can be. It is the same for every command that knows the option. -/
inductive Means (verb : Verb) (arg : String) : Prop
  | option (o : Opt) (v : String) : verb.knows o →
    (∀ verb' g, verb'.knows o → take verb' g arg = (g.put o v).elim .refused .done) → Means verb arg
  | waits (o : Opt) : verb.knows o → (∀ verb' g, verb'.knows o → take verb' g arg = .waiting o) →
    Means verb arg
  | name : (∀ verb' g, take verb' g arg = (Given.putName g verb' arg).elim .refused .done) →
    Means verb arg
  | neither : (∀ g, take verb g arg = .help ∨ take verb g arg = .refused) → Means verb arg

theorem filter_knows {verb : Verb} {o : Opt} (h : verb.knows o) :
    (some o).filter verb.knows = some o := by
  rw [Option.filter_some, if_pos h]

/-- An option with a path is an option with a value, unless the path is empty. -/
theorem means_path {verb : Verb} {arg : String} {o : Opt} {v : String} (hk : verb.knows o)
    (h : ∀ verb' g, verb'.knows o → take verb' g arg = (g.putPath o v).elim .refused .done) :
    Means verb arg := by
  by_cases empty : v = ""
  · refine .neither fun g => .inr ?_
    rw [h verb g hk]
    simp [Given.putPath, empty]
  · refine .option o v hk fun verb' g hk' => ?_
    rw [h verb' g hk']
    simp [Given.putPath, empty]

theorem means_named {verb : Verb} {arg : String} {name : List Char} {value : Option String}
    (h : ∀ verb' g, take verb' g arg = takeNamed verb' g name value) : Means verb arg := by
  unfold takeNamed at h
  by_cases known : ∃ o, Opt.of? name = some o ∧ verb.knows o
  · obtain ⟨o, ho, hk⟩ := known
    rw [ho] at h
    by_cases json : o = .json
    · subst json
      cases value with
      | none => exact .option .json "" hk fun verb' g hk' => by rw [h, filter_knows hk']
      | some v => exact .neither fun g => .inr (by rw [h, filter_knows hk])
    -- every other option has a value that is a path
    have path {verb' : Verb} (hk' : verb'.knows o) (g : Given) : take verb' g arg =
        match value with
        | some v => (g.putPath o v).elim .refused .done
        | none => .waiting o := by
      rw [h, filter_knows hk']
      cases value <;> cases o <;> first | rfl | exact absurd rfl json
    cases value with
    | none => exact .waits o hk fun verb' g hk' => path hk' g
    | some v => exact means_path hk fun verb' g hk' => path hk' g
  · have unknown : (Opt.of? name).filter verb.knows = none :=
      Option.filter_eq_none_iff.mpr fun o ho hk => known ⟨o, ho, hk⟩
    refine .neither fun g => ?_
    rw [h, unknown]
    cases value with
    | none =>
      by_cases hn : name = "help".toList
      · exact .inl (if_pos hn)
      · exact .inr (if_neg hn)
    | some v => exact .inr rfl

theorem means_short {verb : Verb} {arg : String} {s : List Char}
    (h : ∀ verb' g, take verb' g arg = takeShort verb' g s) : Means verb arg := by
  unfold takeShort at h
  by_cases help : ∃ rest, s = 'h' :: rest
  · obtain ⟨rest, rfl⟩ := help
    exact .neither fun g => .inl (h verb g)
  by_cases out : ∃ rest, s = 'o' :: rest
  · obtain ⟨rest, rfl⟩ := out
    by_cases hk : verb.knows .out
    · cases rest with
      | nil => exact .waits .out hk fun verb' g hk' => by simp [h, hk']
      | cons c rest =>
        -- the value may begin with an equals sign, which is no part of it
        by_cases hc : c = '='
        · exact means_path (v := String.ofList rest) hk fun verb' g hk' => by simp [h, hk', hc]
        · exact means_path (v := String.ofList (c :: rest)) hk fun verb' g hk' => by
            simp [h, hk', hc]
    · exact .neither fun g => .inr (by simp [h, hk])
  · refine .neither fun g => .inr ?_
    rw [h]
    split
    · exact absurd ⟨_, rfl⟩ help
    · exact absurd ⟨_, rfl⟩ out
    · rfl

theorem means (verb : Verb) (arg : String) : Means verb arg := by
  by_cases long : ∃ s, arg.toList = '-' :: '-' :: s
  · obtain ⟨s, hs⟩ := long
    cases he : Text.splitOnce? '=' s with
    | none =>
      have alone (verb' : Verb) (g : Given) : take verb' g arg = takeNamed verb' g s none := by
        simp only [take, hs, takeLong, he]
      exact means_named alone
    | some p =>
      have valued (verb' : Verb) (g : Given) :
          take verb' g arg = takeNamed verb' g p.1 (some (String.ofList p.2)) := by
        simp only [take, hs, takeLong, he]
      exact means_named valued
  by_cases short : ∃ c s, arg.toList = '-' :: c :: s
  · obtain ⟨c, s, hs⟩ := short
    refine means_short (s := c :: s) fun verb' g => ?_
    unfold take
    split
    · rename_i hl
      exact absurd ⟨_, hl⟩ long
    · rename_i hl
      cases hs.symm.trans hl
      rfl
    · rename_i hl
      exact absurd hs (hl _ _)
  · refine .name fun verb' g => ?_
    unfold take
    split
    · rename_i hl
      exact absurd ⟨_, hl⟩ long
    · rename_i hl
      exact absurd ⟨_, _, hl⟩ short
    · rfl

/-! ## More in front -/

def Given.above (g front : Given) : Given := ⟨g.options ++ front.options, front.names ++ g.names⟩

/-- The options of `g` may all be given after those of `front`. -/
def Given.Fresh (g front : Given) : Prop := ∀ o, g.has o → ¬front.has o

theorem Given.has_above {g front : Given} {o : Opt} :
    (g.above front).has o ↔ g.has o ∨ front.has o := by
  unfold has above
  rw [List.lookup_append]
  cases g.options.lookup o <;> simp

theorem Given.has_of_put {g g₁ : Given} {o : Opt} {v : String} (h : g.put o v = some g₁)
    {o' : Opt} :
    g₁.has o' ↔ o' = o ∨ g.has o' := by
  obtain ⟨-, rfl⟩ := put_eq_some.mp h
  unfold has
  rw [List.lookup_cons]
  by_cases ho : o' = o
  · simp [ho]
  · rw [beq_eq_false_iff_ne.mpr ho]
    exact (or_iff_right ho).symm

theorem Given.put_above {g g₁ front : Given} {o : Opt} {v : String} (h : g.put o v = some g₁)
    (fresh : g₁.Fresh front) : (g.above front).put o v = some (g₁.above front) := by
  have new := fresh o ((has_of_put h).mpr (.inl rfl))
  obtain ⟨absent, rfl⟩ := put_eq_some.mp h
  refine put_eq_some.mpr ⟨?_, rfl⟩
  rw [has_above]
  exact not_or.mpr ⟨absent, new⟩

theorem Given.putName_above {g g₁ front : Given} {verb verb' : Verb} {n : String}
    (named : verb = .render → verb' = .render ∧ front.names = []) (h : g.putName verb n = some g₁) :
    (g.above front).putName verb' n = some (g₁.above front) := by
  unfold putName at h
  split at h
  · rename_i hr
    cases h
    obtain ⟨render, empty⟩ : verb = .render ∧ g.names.isEmpty := by simpa using hr
    obtain ⟨rfl, front⟩ := named render
    simp [putName, above, front, List.isEmpty_iff.mp empty]
  · cases h

theorem elim_eq_done {g₁ : Option Given} {g : Given} (h : g₁.elim .refused .done = Taken.done g) :
    g₁ = some g := by
  cases g₁ with
  | none => cases h
  | some g' => exact congrArg some (Taken.done.inj h)

theorem elim_ne_waiting {g₁ : Option Given} {o : Opt} :
    g₁.elim .refused .done ≠ Taken.waiting o := by
  cases g₁ <;> exact Taken.noConfusion

section
variable {verb verb' : Verb} {front : Given} (knows : ∀ o, verb.knows o → verb'.knows o)
  (named : verb = .render → verb' = .render ∧ front.names = [])
include knows named

theorem take_above {g g₁ : Given} {arg : String} (h : take verb g arg = .done g₁)
    (fresh : g₁.Fresh front) : take verb' (g.above front) arg = .done (g₁.above front) := by
  cases means verb arg with
  | option o v hk each =>
    rw [each verb g hk] at h
    rw [each verb' _ (knows o hk), Given.put_above (elim_eq_done h) fresh]
    rfl
  | waits o hk each => cases (each verb g hk).symm.trans h
  | name each =>
    rw [each] at h
    rw [each, Given.putName_above named (elim_eq_done h)]
    rfl
  | neither each => rcases each g with hn | hn <;> cases hn.symm.trans h

omit named in
theorem take_waiting_above {g : Given} {arg : String} {o : Opt} (h : take verb g arg = .waiting o) :
    take verb' (g.above front) arg = .waiting o := by
  cases means verb arg with
  | option o' v hk each => exact absurd ((each verb g hk).symm.trans h) elim_ne_waiting
  | waits o' hk each =>
    cases (each verb g hk).symm.trans h
    exact each verb' _ (knows o hk)
  | name each => exact absurd ((each verb g).symm.trans h) elim_ne_waiting
  | neither each => rcases each g with hn | hn <;> cases hn.symm.trans h

end

/-- A single argument takes nothing away and adds only an option that the command knows. -/
theorem has_of_take {verb : Verb} {g g₁ : Given} {arg : String} (h : take verb g arg = .done g₁)
    (o : Opt) :
    (g.has o → g₁.has o) ∧ (g₁.has o → g.has o ∨ verb.knows o) := by
  cases means verb arg with
  | option o' v hk each =>
    rw [each verb g hk] at h
    rw [Given.has_of_put (elim_eq_done h)]
    refine ⟨.inr, ?_⟩
    rintro (rfl | ho)
    · exact .inr hk
    · exact .inl ho
  | waits o' hk each => cases (each verb g hk).symm.trans h
  | name each =>
    rw [each] at h
    have hp := elim_eq_done h
    unfold Given.putName at hp
    split at hp <;> cases hp
    exact ⟨id, .inl⟩
  | neither each => rcases each g with hn | hn <;> cases hn.symm.trans h

theorem knows_of_take {verb : Verb} {g : Given} {arg : String} {o : Opt}
    (h : take verb g arg = .waiting o) : verb.knows o := by
  cases means verb arg with
  | option o' v hk each => exact absurd ((each verb g hk).symm.trans h) elim_ne_waiting
  | waits o' hk each =>
    cases (each verb g hk).symm.trans h
    exact hk
  | name each => exact absurd ((each verb g).symm.trans h) elim_ne_waiting
  | neither each => rcases each g with hn | hn <;> cases hn.symm.trans h

theorem foldlM_putName {verb : Verb} : ∀ {names : List String} {g last : Given},
    names.foldlM (fun g n => Given.putName g verb n) g = some last → last.options = g.options
  | [], g, last, h => by
    cases h
    rfl
  | n :: names, g, last, h => by
    rw [List.foldlM_cons, Option.bind_eq_bind, Option.bind_eq_some_iff] at h
    obtain ⟨g₁, hp, h⟩ := h
    rw [foldlM_putName h]
    unfold Given.putName at hp
    split at hp <;> cases hp
    rfl

theorem foldlM_putName_above {verb verb' : Verb} {front : Given}
    (named : verb = .render → verb' = .render ∧ front.names = []) :
    ∀ {names : List String} {g last : Given},
      names.foldlM (fun g n => Given.putName g verb n) g = some last →
        names.foldlM (fun g n => Given.putName g verb' n) (g.above front) = some (last.above front)
  | [], g, last, h => by
    cases h
    rfl
  | n :: names, g, last, h => by
    rw [List.foldlM_cons, Option.bind_eq_bind, Option.bind_eq_some_iff] at h ⊢
    obtain ⟨g₁, hp, h⟩ := h
    exact ⟨_, Given.putName_above named hp, foldlM_putName_above named h⟩

theorem Gathers.has {verb : Verb} {g last : Given} {w : Option Opt} {args : List String}
    (h : Gathers verb g w args last) {o : Opt} (ho : g.has o) : last.has o := by
  induction h with
  | done g => exact ho
  | value _ hp _ ih => exact ih ((Given.has_of_put (Given.putPath_eq_some.mp hp).2).mpr (.inr ho))
  | names hf =>
    unfold Given.has
    rw [foldlM_putName hf]
    exact ho
  | taken _ ht _ ih => exact ih ((has_of_take ht o).1 ho)
  | waiting _ _ _ ih => exact ih ho

theorem Gathers.knows {verb : Verb} {g last : Given} {w : Option Opt} {args : List String}
    (h : Gathers verb g w args last) (hw : ∀ o, w = some o → verb.knows o) {o : Opt}
    (ho : last.has o) :
    g.has o ∨ verb.knows o := by
  induction h with
  | done g => exact .inl ho
  | value _ hp _ ih =>
    rcases ih (fun _ hn => nomatch hn) ho with h₁ | hk
    · rcases (Given.has_of_put (Given.putPath_eq_some.mp hp).2).mp h₁ with rfl | hg
      · exact .inr (hw _ rfl)
      · exact .inl hg
    · exact .inr hk
  | names hf =>
    unfold Given.has at ho
    rw [foldlM_putName hf] at ho
    exact .inl ho
  | taken _ ht _ ih =>
    rcases ih (fun _ hn => nomatch hn) ho with h₁ | hk
    · exact (has_of_take ht o).2 h₁
    · exact .inr hk
  | waiting _ ht _ ih => exact ih (fun _ hs => Option.some.inj hs ▸ knows_of_take ht) ho

/-- **More in front.** Arguments that are read after other arguments say the same as alone, also for
another command that knows their options, unless an option is given twice. -/
theorem Gathers.above {verb verb' : Verb} {front : Given}
    (knows : ∀ o, verb.knows o → verb'.knows o)
    (named : verb = .render → verb' = .render ∧ front.names = []) {g last : Given} {w : Option Opt}
    {args : List String} (h : Gathers verb g w args last) (fresh : last.Fresh front) :
    Gathers verb' (g.above front) w args (last.above front) := by
  -- what is given on the way is still given at the end, so `front` holds none of it
  induction h with
  | done g => exact .done _
  | value hv hp hl ih =>
    obtain ⟨nonempty, hput⟩ := Given.putPath_eq_some.mp hp
    have fresh₁ : Given.Fresh _ front := fun o ho => fresh o (hl.has ho)
    exact .value hv (Given.putPath_eq_some.mpr ⟨nonempty, Given.put_above hput fresh₁⟩) (ih fresh)
  | names hf => exact .names (foldlM_putName_above named hf)
  | taken ha ht hl ih =>
    have fresh₁ : Given.Fresh _ front := fun o ho => fresh o (hl.has ho)
    exact .taken ha (take_above knows named ht fresh₁) (ih fresh)
  | waiting ha ht _ ih => exact .waiting ha (take_waiting_above knows ht) (ih fresh)

/-! ## Command lines -/

theorem Given.not_has {g : Given} {o : Opt} : ¬g.has o ↔ g.options.lookup o = none := by
  unfold has
  exact Option.not_isSome_iff_eq_none

theorem Given.lookup_above {g front : Given} {o : Opt} (h : ¬front.has o) :
    (g.above front).options.lookup o = g.options.lookup o := by
  unfold above
  rw [List.lookup_append, not_has.mp h, Option.or_none]

theorem Given.has_single {o o' : Opt} {v : String} {ns : List String} :
    has ⟨[(o, v)], ns⟩ o' ↔ o' = o := by
  unfold has
  rw [List.lookup_cons]
  by_cases ho : o' = o
  · simp [ho]
  · rw [beq_eq_false_iff_ne.mpr ho]
    simp [ho]

/-- A command line that renders to the standard output also names a file once a file is given in
front. -/
theorem request?_out {rest : List String} {c : ViewChoice} {name : String} {data : Option String}
    (h : request? ("render" :: rest) = some (.render c name data none)) {file : String}
    (value : isValue file) (nonempty : file ≠ "") :
    request? ("render" :: "--out" :: file :: rest) = some (.render c name data (some file)) := by
  have taken : takeAll .render ⟨[], []⟩ none rest = some (.render c name data none) := h
  obtain ⟨last, gathers, hq⟩ := gathers_of_takeAll Request.noConfusion taken
  let front : Given := ⟨[(.out, file)], []⟩
  unfold Given.request? at hq
  obtain ⟨n, hn, heq⟩ := Option.map_eq_some_iff.mp hq
  simp only [Request.render.injEq] at heq
  obtain ⟨rfl, rfl, rfl, noOut⟩ := heq
  have fresh : last.Fresh front := fun o ho hf =>
    Given.not_has.mpr noOut (Given.has_single.mp hf ▸ ho)
  have all : Gathers .render ⟨[], []⟩ none ("--out" :: file :: rest) (last.above front) :=
    .waiting (by decide) rfl (.value value (Given.putPath_eq_some.mpr ⟨nonempty, rfl⟩)
      (gathers.above (fun _ => id) (fun _ => ⟨rfl, rfl⟩) fresh))
  have others {o : Opt} (ho : o ≠ .out) :
      (last.above front).options.lookup o = last.options.lookup o :=
    Given.lookup_above (mt Given.has_single.mp ho)
  have given : (last.above front).options.lookup .out = some file := by
    unfold Given.above
    rw [List.lookup_append, noOut]
    rfl
  show takeAll .render ⟨[], []⟩ none _ = _
  rw [all.takeAll_eq]
  unfold Given.request?
  dsimp only
  rw [others (o := .views) (by decide), others (o := .layout) (by decide),
    others (o := .data) (by decide), given]
  simp [Given.above, front, hn]

theorem knows_of_check (verb : Verb) (o : Opt) : Verb.check.knows o → verb.knows o := by
  cases verb <;> cases o <;> decide

theorem Gathers.known_of_check {options : List String} {last : Given}
    (h : Gathers .check ⟨[], []⟩ none options last) {o : Opt} (ho : last.has o) :
    o = .views ∨ o = .layout := by
  have hk := (h.knows (fun _ hn => nomatch hn) ho).resolve_left (by simp [Given.has])
  revert hk
  cases o <;> decide

/-- Options that `check` takes are read by another command too, behind anything but these
options. -/
theorem Gathers.takeAll_of_check {options : List String} {last : Given}
    (h : Gathers .check ⟨[], []⟩ none options last) (verb : Verb) (front : Given)
    (hv : ¬front.has .views) (hl : ¬front.has .layout) : takeAll verb front none options =
      (last.above front).request? verb := by
  have fresh : last.Fresh front := by
    intro o ho
    rcases h.known_of_check ho with rfl | rfl
    · exact hv
    · exact hl
  have all := h.above (knows_of_check verb) (fun hr => nomatch hr) fresh
  rw [← all.takeAll_eq]
  simp [Given.above]

/-- An argument without a dash in front is a name. -/
theorem take_name {verb : Verb} {g : Given} {name : String} (h : name.toList.head? ≠ some '-') :
    take verb g name = (g.putName verb name).elim .refused .done := by
  unfold take
  split
  · rename_i hl
    simp [hl] at h
  · rename_i hl
    simp [hl] at h
  · rfl

/-- **Options in common.** Options that `check` takes are taken by the other commands. -/
theorem request?_of_check {options : List String} {c : ViewChoice}
    (h : request? ("check" :: options) = some (.check c)) :
    request? ("list" :: options) = some (.list c false) ∧
      request? ("list" :: "--json" :: options) = some (.list c true) ∧
        ∀ name : String, name.toList.head? ≠ some '-' →
          request? ("render" :: name :: options) = some (.render c name none none) := by
  have taken : takeAll .check ⟨[], []⟩ none options = some (.check c) := h
  obtain ⟨last, gathers, hq⟩ := gathers_of_takeAll Request.noConfusion taken
  cases hq
  have without {o : Opt} (hv : o ≠ .views) (hl : o ≠ .layout) : last.options.lookup o = none :=
    Given.not_has.mp fun ho => (gathers.known_of_check ho).elim hv hl
  have json := without (o := .json) (by decide) (by decide)
  refine ⟨?asTable, ?asData, fun name hname => ?named⟩
  case asTable =>
    have read := gathers.takeAll_of_check .list ⟨[], []⟩ (by simp [Given.has]) (by simp [Given.has])
    show takeAll .list ⟨[], []⟩ none options = _
    rw [read]
    simp [Given.request?, Given.above, json]
  case asData =>
    have noViews : ¬Given.has ⟨[(.json, "")], []⟩ .views := by simp [Given.has_single]
    have noLayout : ¬Given.has ⟨[(.json, "")], []⟩ .layout := by simp [Given.has_single]
    show takeAll .list ⟨[(.json, "")], []⟩ none options = _
    rw [gathers.takeAll_of_check .list _ noViews noLayout]
    simp only [Given.request?, Given.lookup_above noViews, Given.lookup_above noLayout]
    simp [Given.above, List.lookup_append, json]
  case named =>
    have read := gathers.takeAll_of_check .render ⟨[], [name]⟩ (by simp [Given.has])
      (by simp [Given.has])
    have data := without (o := .data) (by decide) (by decide)
    have out := without (o := .out) (by decide) (by decide)
    have plain : name ≠ "--" := by
      rintro rfl
      exact hname rfl
    show takeAll .render ⟨[], []⟩ none (name :: options) = _
    rw [takeAll, if_neg plain, take_name hname]
    show takeAll .render ⟨[], [name]⟩ none options = _
    rw [read]
    simp [Given.request?, Given.above, data, out]

end ViewWeave.Command
