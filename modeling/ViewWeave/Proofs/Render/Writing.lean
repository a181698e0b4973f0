import ViewWeave.Proofs.Render.Judgement
import ViewWeave.Proofs.Render.Twin

/-!
# Writing into a sink that refuses

What a rendering writes is a list of pieces that does not depend on the sink. A sink takes them one
after the other; if it refuses one, the rendering ends there: `Job.runInto_pieces`.
-/

namespace ViewWeave

/-! ## Sinks -/

namespace Sink

/-- The sink after some pieces, up to the first one that it refuses, and whether it took all. -/
def writeAll (k : Sink) : List String → Sink × Bool
  | [] => (k, true)
  | s :: ss =>
    match k.write s with
    | (k, true) => k.writeAll ss
    | (k, false) => (k, false)

theorem writeAll_append (ss ts : List String) (k : Sink) :
    k.writeAll (ss ++ ts) = match k.writeAll ss with
      | (k, true) => k.writeAll ts
      | (k, false) => (k, false) := by
  induction ss generalizing k with
  | nil => rfl
  | cons s ss ih =>
    simp only [List.cons_append, writeAll]
    rcases k.write s with ⟨k', _ | _⟩
    · rfl
    · exact ih k'

theorem writeAll_of_free (ss : List String) {k : Sink} (hk : k.room = none) :
    k.writeAll ss = ({ k with pieces := ss.reverse ++ k.pieces }, true) := by
  induction ss generalizing k with
  | nil => rfl
  | cons s ss ih =>
    have first : k.write s = ({ k with pieces := s :: k.pieces }, true) := by
      unfold write
      rw [hk]
    simp only [writeAll, first]
    rw [ih (by exact hk)]
    simp

theorem bytes_of_whole {k : Sink} (hk : k.torn = []) (ss : List String) (room : Option Nat) :
    ({ k with pieces := ss.reverse ++ k.pieces, room } : Sink).bytes =
      k.bytes ++ ss.flatMap Text.utf8 := by
  simp [bytes, hk]

theorem bytes_of_free (ss : List String) :
    ((ofRoom none).writeAll ss).1.bytes = ss.flatMap Text.utf8 := by
  rw [writeAll_of_free ss rfl]
  simp [bytes, ofRoom]

/-- A sink with room for `n` bytes takes the first `n` bytes of the pieces, and is content if these
are all. -/
theorem writeAll_of_room (ss : List String) {k : Sink} {n : Nat} (hk : k.room = some n)
    (whole : k.torn = []) :
    (k.writeAll ss).1.bytes = k.bytes ++ (ss.flatMap Text.utf8).take n ∧
      ((k.writeAll ss).2 = true ↔ (ss.flatMap Text.utf8).length ≤ n) := by
  induction ss generalizing k n with
  | nil => simp [writeAll]
  | cons s ss ih =>
    by_cases fits : (Text.utf8 s).length ≤ n
    · have first : k.write s =
          ({ k with pieces := s :: k.pieces, room := some (n - (Text.utf8 s).length) }, true) := by
        simp [write, hk, fits]
      have bytes :
          ({ k with pieces := s :: k.pieces, room := some (n - (Text.utf8 s).length) } : Sink).bytes
            = k.bytes ++ Text.utf8 s := by simpa using bytes_of_whole whole [s] _
      obtain ⟨written, content⟩ := ih (k := { k with
        pieces := s :: k.pieces, room := some (n - (Text.utf8 s).length) }) rfl whole
      simp only [writeAll, first, List.flatMap_cons]
      refine ⟨?_, ?_⟩
      · rw [written, bytes, List.take_append, List.take_of_length_le fits, List.append_assoc]
      · rw [content, List.length_append]
        omega
    · have first : k.write s =
          ({ k with room := some 0, torn := k.torn ++ (Text.utf8 s).take n }, false) := by
        simp [write, hk, fits]
      simp only [writeAll, first, List.flatMap_cons]
      refine ⟨?_, ?_⟩
      · rw [List.take_append_of_le_length (by omega)]
        simp [Sink.bytes, whole]
      · rw [List.length_append]
        simp
        omega

end Sink

/-! ## Steps and the pieces they write -/

/-- From a state, a step writes these pieces and ends like this, whatever the sink is; but where the
sink refuses a piece, it ends with that. -/
structure Eval.Writes {α : Type} (m : Eval α) (st : State) (pieces : List String)
    (r : Except Fault α) (st' : State) : Prop where
  taken : ∀ k : Sink, (k.writeAll pieces).2 = true →
    m { st with out := k } = (r, { st' with out := (k.writeAll pieces).1 })
  refused : ∀ k : Sink, (k.writeAll pieces).2 = false →
    ∃ s, m { st with out := k } = (.error .refused, s) ∧ s.out = (k.writeAll pieces).1

namespace Eval.Writes

variable {α β : Type} {m : Eval α} {st st₁ st₂ : State} {ps qs : List String}

theorem silent {r : Except Fault α} (h : ∀ k, m { st with out := k } = (r, { st₁ with out := k })) :
    m.Writes st [] r st₁ :=
  ⟨fun k _ => h k, fun _ hk => by cases hk⟩

theorem bind {f : α → Eval β} {a : α} {r : Except Fault β} (hm : m.Writes st ps (.ok a) st₁)
    (hf : (f a).Writes st₁ qs r st₂) : (m >>= f).Writes st (ps ++ qs) r st₂ := by
  refine ⟨fun k hk => ?_, fun k hk => ?_⟩
  all_goals
    rw [Sink.writeAll_append] at hk ⊢
    have hm₁ := hm.taken k
    have hm₂ := hm.refused k
    rw [Eval.bind_apply]
    generalize k.writeAll ps = w at hk hm₁ hm₂
    obtain ⟨k', _ | _⟩ := w
  · cases hk
  · rw [hm₁ rfl]
    exact hf.taken k' hk
  · obtain ⟨s, hs, out⟩ := hm₂ rfl
    exact ⟨s, by rw [hs], out⟩
  · rw [hm₁ rfl]
    exact hf.refused k' hk

theorem bind_error {f : α → Eval β} {e : Fault} (hm : m.Writes st ps (.error e) st₁) :
    (m >>= f).Writes st ps (.error e) st₁ := by
  refine ⟨fun k hk => ?_, fun k hk => ?_⟩
  · rw [Eval.bind_apply, hm.taken k hk]
  · obtain ⟨s, hs, out⟩ := hm.refused k hk
    exact ⟨s, by rw [Eval.bind_apply, hs], out⟩

theorem write (s : String) (st : State) : (Eval.write s).Writes st [s] (.ok ()) st := by
  have step (k : Sink) : Eval.write s { st with out := k } =
      (if (k.write s).2 then .ok () else .error .refused, { st with out := (k.write s).1 }) := rfl
  refine ⟨fun k hk => ?_, fun k hk => ?_⟩
  all_goals
    rw [step]
    unfold Sink.writeAll at hk ⊢
    generalize k.write s = w at hk
    obtain ⟨k', _ | _⟩ := w
  · cases hk
  · rfl
  · exact ⟨_, rfl, rfl⟩
  · cases hk

theorem capture {m : Eval Unit} {r : Except Fault Unit} (hm : m.Writes st ps r st₁) :
    (Eval.capture m).Writes st [] (r.map fun _ => (Sink.ofRoom none).writeAll ps |>.1.text)
      st₁ := by
  have free := Sink.writeAll_of_free ps (k := .ofRoom none) rfl
  have run := hm.taken (.ofRoom none) (by rw [free])
  refine silent fun k => ?_
  unfold Eval.capture
  dsimp only
  rw [run]
  cases r <;> rfl

end Eval.Writes

/-! ## All steps -/

def Judgement.writing : Judgement where
  tag _ := True
  quiet m := ∀ st, ∃ r st', m.Writes st [] r st'
  walk m := ∀ st, ∃ pieces r st', m.Writes st pieces r st'
  value _ _ := True

namespace Judgement.writing

theorem write (s : String) : writing.walk (Eval.write s) := fun st => ⟨_, _, _, .write s st⟩

theorem quiet_of {α : Type} {m : Eval α} {f : State → Except Fault α × State}
    (h : ∀ st k, m { st with out := k } = ((f st).1, { (f st).2 with out := k })) :
    writing.quiet m :=
  fun st => ⟨_, _, .silent (h st)⟩

theorem walk_of_quiet {α : Type} {m : Eval α} (h : writing.quiet m) : writing.walk m :=
  fun st => ⟨[], h st⟩

theorem bind {α β : Type} {m : Eval α} {f : α → Eval β} (hm : writing.walk m)
    (hf : ∀ a, writing.walk (f a)) : writing.walk (m >>= f) := by
  intro st
  obtain ⟨ps, r, st₁, run⟩ := hm st
  cases r with
  | error e => exact ⟨ps, _, st₁, run.bind_error⟩
  | ok a =>
    obtain ⟨qs, r, st₂, rest⟩ := hf a st₁
    exact ⟨ps ++ qs, r, st₂, run.bind rest⟩

theorem quiet_bind {α β : Type} {m : Eval α} {f : α → Eval β} (hm : writing.quiet m)
    (hf : ∀ a, writing.quiet (f a)) : writing.quiet (m >>= f) := by
  intro st
  obtain ⟨r, st₁, run⟩ := hm st
  cases r with
  | error e => exact ⟨_, st₁, run.bind_error⟩
  | ok a =>
    obtain ⟨r, st₂, rest⟩ := hf a st₁
    exact ⟨r, st₂, run.bind rest⟩

theorem get {α : Type} {k : State → Eval α} (apart : Apart k) {st st' : State} {ps : List String}
    {r : Except Fault α} (h : (k st).Writes st ps r st') :
    (MonadState.get >>= k : Eval α).Writes st ps r st' := by
  have same (out : Sink) : (MonadState.get >>= k : Eval α) { st with out } =
      k st { st with out } := by
    show k { st with out } { st with out } = _
    rw [apart]
  refine ⟨fun out hk => ?_, fun out hk => ?_⟩
  · rw [same]
    exact h.taken out hk
  · rw [same]
    exact h.refused out hk

theorem putOut (v : Value) : writing.walk (Eval.putOut v) := by
  have noted := quiet_of (m := (modify fun st => { st with shown := v :: st.shown } : Eval Unit))
    (f := fun st => (.ok (), { st with shown := v :: st.shown })) fun _ _ => rfl
  exact bind (walk_of_quiet noted) fun _ => write v.displayText

theorem every (t : Template) : t.Every writing.tag :=
  ⟨fun _ _ => trivial, fun _ _ _ _ => trivial, fun _ _ _ _ => trivial⟩

theorem rules : writing.Rules where
  pure a := quiet_of (f := fun st => (.ok a, st)) fun _ _ => rfl
  throw e := quiet_of (f := fun st => (.error e, st)) fun _ _ => rfl
  bind := quiet_bind
  get apart h st := by
    obtain ⟨r, st', run⟩ := h st (fun _ _ => every _) st
    exact ⟨r, st', get apart run⟩
  note f := quiet_of
    (f := fun st => (.ok st.called.length, { st with called := f :: st.called })) fun _ _ => rfl
  arrange {f g} _ := quiet_of
    (f := fun st => (.ok (), { st with frames := f st.frames, blocks := g st.blocks })) fun _ _ =>
    rfl
  capture h st := by
    obtain ⟨ps, r, st', run⟩ := h st
    exact ⟨_, st', run.capture⟩
  verbatim h st := by
    obtain ⟨r, st', run⟩ := h { st with escaping := false }
    refine ⟨r, { st' with escaping := st.escaping }, .silent fun k => ?_⟩
    have step := run.taken k rfl
    dsimp only at step
    simp [Eval.verbatim, step, Sink.writeAll]
  attempt h st := by
    obtain ⟨r, st', run⟩ := h st
    refine ⟨.ok r, st', .silent fun k => ?_⟩
    simp [Eval.attempt, run.taken k rfl, Sink.writeAll]
  wrapping wrap m h st := by
    obtain ⟨r, st', run⟩ := h st
    refine ⟨r.mapError wrap, st', .silent fun k => ?_⟩
    simp [Eval.wrapping, run.taken k rfl, Sink.writeAll]
  walk := walk_of_quiet
  walk_bind := bind
  walk_get apart h st := by
    obtain ⟨ps, r, st', run⟩ := h st (fun _ _ => every _) st
    exact ⟨ps, r, st', get apart run⟩
  text _ := write _
  raw _ := write _
  output _ h _ := bind (walk_of_quiet h) putOut
  tooDeep _ := trivial

theorem sound (job : Job) : writing.Sound job where
  rules := rules
  covers := ⟨fun _ t _ => every t, every _⟩
  value _ _ := trivial
  filtered h _ hb := by
    refine bind (rules.walk (rules.capture (h.body hb))) fun s => ?_
    split
    · exact write s
    · exact bind (rules.walk (h.filter rules _ _)) fun v => write v.displayText

end Judgement.writing

/-! ## Whole renderings -/

namespace Job

/-- A rendering writes some pieces, whatever the sink is, and has an outcome, unless the sink
refuses a piece: then that is the fault. -/
theorem runInto_pieces (job : Job) (n : Nat) : ∃ (pieces : List String) (o : Outcome), ∀ room,
    let k := (Sink.ofRoom room).writeAll pieces
    (job.runInto room n).out = k.1 ∧
      if k.2 then job.runInto room n = { o with out := k.1 }
      else ∃ site, (job.runInto room n).fault = some (site, .refused) := by
  obtain ⟨pieces, r, st, run⟩ := (Judgement.writing.sound job).walk n (job.start none)
  let o : Outcome := ⟨.ofRoom none, st.called.reverse, st.shown.reverse,
    match r with
    | .ok () => none
    | .error f => some (st.site, f)⟩
  refine ⟨pieces, o, fun room => ?_⟩
  have taken := run.taken (.ofRoom room)
  have refused := run.refused (.ofRoom room)
  have start : { job.start none with out := .ofRoom room } = job.start room := rfl
  rw [start] at taken refused
  generalize (Sink.ofRoom room).writeAll pieces = k at taken refused
  obtain ⟨k, _ | _⟩ := k
  · obtain ⟨s, hs, out⟩ := refused rfl
    unfold runInto
    rw [hs]
    exact ⟨out, s.site, rfl⟩
  · unfold runInto
    rw [taken rfl]
    cases r <;> exact ⟨rfl, rfl⟩

theorem runTo_bytes (job : Job) (n : Nat) :
    ∃ pieces : List String, (job.runTo n).bytes = pieces.flatMap Text.utf8 := by
  obtain ⟨pieces, o, run⟩ := job.runInto_pieces n
  refine ⟨pieces, ?_⟩
  unfold runTo Outcome.bytes
  rw [(run none).1, Sink.bytes_of_free]

/-- Two writers get the same from a rendering, as far as the second one takes it. If it takes all,
the rendering ends alike; if not, it ends with that. -/
theorem runInto_limited (job : Job) (depth n : Nat) :
    (job.runInto (some n) depth).bytes = (job.runTo depth).bytes.take n ∧
      if (job.runTo depth).bytes.length ≤ n then
        (job.runInto (some n) depth).fault = (job.runTo depth).fault
      else ∃ site, (job.runInto (some n) depth).fault = some (site, .refused) := by
  obtain ⟨pieces, o, run⟩ := job.runInto_pieces depth
  have free := (run none).2
  have limited := run (some n)
  obtain ⟨written, content⟩ := Sink.writeAll_of_room pieces (k := .ofRoom (some n)) rfl rfl
  rw [Sink.writeAll_of_free pieces rfl, if_pos rfl] at free
  have all : (job.runTo depth).bytes = pieces.flatMap Text.utf8 := by
    unfold runTo Outcome.bytes
    rw [(run none).1, Sink.bytes_of_free]
  have taken : (job.runInto (some n) depth).bytes = (pieces.flatMap Text.utf8).take n := by
    unfold Outcome.bytes
    rw [limited.1, written]
    simp [Sink.bytes, Sink.ofRoom]
  rw [all]
  refine ⟨taken, ?_⟩
  have ended := limited.2
  split
  case isTrue fits =>
    rw [content.mpr fits, if_pos rfl] at ended
    unfold runTo
    rw [ended, free]
  case isFalse fits =>
    rwa [if_neg (mt content.mp fits)] at ended

end Job

end ViewWeave
