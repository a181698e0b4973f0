import ViewWeave.Proofs.Compose.Library

/-!
# Renderings of a registry

What the rendering of an entry consists of, and what a writer gets of it.
-/

namespace ViewWeave

theorem Outcome.ended_isOk (o : Outcome) (job : Job) : (o.ended job).isOk ↔ ¬o.fault.isSome := by
  unfold ended
  cases o.fault <;> simp [Except.isOk, Except.toBool]

/-! ## Entries -/

variable {r : Registry} {around : Surroundings} {name : String} {data : Value}

theorem Registry.outcome_eq_ok {job : Job} {o : Outcome}
    (h : r.outcome around name data = .ok (job, o)) :
    ∃ t template fields, r.lookup name = some t ∧ r.engine.library.lookup name = some template ∧
      dataFields? data = some fields ∧ job = ⟨r.engine, around, template, fields⟩ ∧
      o = job.run none t.source := by
  unfold Registry.outcome outcomeInto at h
  split at h
  · rename_i t template ht htemplate
    split at h
    · cases h
    · rename_i fields hfields
      cases h
      exact ⟨t, template, fields, ht, htemplate, hfields, rfl, rfl⟩
  · cases h

theorem Registry.renderInto_eq {t : ComposedTemplate} {template : Template} {fields : Fields}
    (ht : r.lookup name = some t)
    (hl : r.engine.library.lookup name = some template) (hd : dataFields? data = some fields)
    (room : Option Nat) :
    r.renderInto around room name data =
      let job : Job := ⟨r.engine, around, template, fields⟩
      let o := job.run room t.source
      (o.bytes, (o.ended job).mapError (.execution name)) := by
  unfold renderInto outcomeInto
  rw [ht, hl, hd]

theorem Registry.entry_or_error (r : Registry) (around : Surroundings) (name : String)
    (data : Value) :
    (∃ t template fields, r.lookup name = some t ∧ r.engine.library.lookup name = some template ∧
      dataFields? data = some fields) ∨
      ∃ e, ∀ room, r.renderInto around room name data = ([], .error e) := by
  unfold renderInto outcomeInto
  cases r.lookup name with
  | none => exact .inr ⟨_, fun _ => rfl⟩
  | some t =>
    cases r.engine.library.lookup name with
    | none => exact .inr ⟨_, fun _ => rfl⟩
    | some template =>
      cases dataFields? data with
      | none => exact .inr ⟨_, fun _ => rfl⟩
      | some fields => exact .inl ⟨t, template, fields, rfl, rfl, rfl⟩

theorem Registry.renderInto_missing (h : r.lookup name = none) (around : Surroundings)
    (room : Option Nat) (data : Value) :
    r.renderInto around room name data = ([], .error (.notFound name)) := by
  unfold renderInto outcomeInto
  rw [h]

/-- A registered name is rendered, or the data are refused. -/
theorem WellMade.renderInto_cases {v : ViewLayout} {helpers : Helpers}
    (made : WellMade v helpers r) {t : ComposedTemplate} (ht : r.lookup name = some t)
    (around : Surroundings) (data : Value) (room : Option Nat) :
    (dataFields? data = none →
        r.renderInto around room name data = ([], .error (.execution name .noVariables))) ∧
      ∃ (bytes : List UInt8) (ended : Except Failure Unit),
        r.renderInto around room name data = (bytes, ended.mapError (.execution name)) := by
  obtain ⟨template, hl, -⟩ := made.of_lookup ht
  cases hd : dataFields? data with
  | none =>
    have refused : r.renderInto around room name data =
        ([], .error (.execution name .noVariables)) := by
      unfold Registry.renderInto Registry.outcomeInto
      rw [ht, hl, hd]
    exact ⟨fun _ => refused, [], .error .noVariables, refused⟩
  | some fields => exact ⟨nofun, _, _, Registry.renderInto_eq ht hl hd room⟩

theorem isOk_mapError {α β ε : Type} (f : α → β) (e : Except α ε) :
    (e.mapError f).isOk ↔ e.isOk := by
  cases e <;> exact Iff.rfl

theorem toOption_map_alike {α β γ δ : Type} {a : Except α γ} {b : Except β γ} (h : a.isOk ↔ b.isOk)
    (d : δ) : (a.map fun _ => d).toOption = (b.map fun _ => d).toOption := by
  cases a <;> cases b <;> simp [Except.isOk, Except.toBool] at h <;> rfl

end ViewWeave
