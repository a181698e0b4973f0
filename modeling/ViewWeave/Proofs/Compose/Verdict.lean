import ViewWeave.Compose.Build

/-!
# Verdicts

A step that makes several checks in order ends in the first failure, or in its value when nothing
failed. The failures of all checks stand in one list, also those that the step never comes to.
-/

namespace ViewWeave

def verdict {α : Type} (failures : List InitError) (a : α) : Except InitError α :=
  match failures with
  | [] => .ok a
  | e :: _ => .error e

section
variable {α β : Type} {fs gs : List InitError} {a : α} {b : β} {e : InitError}

theorem verdict_eq_ok {a' : α} : verdict fs a = .ok a' ↔ fs = [] ∧ a = a' := by
  cases fs with
  | nil => exact ⟨fun h => ⟨rfl, Except.ok.inj h⟩, fun h => congrArg Except.ok h.2⟩
  | cons e fs => exact ⟨fun h => (nomatch h), fun h => absurd h.1 (List.cons_ne_nil e fs)⟩

theorem verdict_eq_error : verdict fs a = .error e ↔ fs.head? = some e := by
  cases fs with
  | nil => exact ⟨fun h => (nomatch h), fun h => (nomatch h)⟩
  | cons e' fs =>
    exact ⟨fun h => congrArg some (Except.error.inj h), fun h => congrArg _ (Option.some.inj h)⟩

/-- Checks one after the other: what follows only has to be known for a value without failures. -/
theorem verdict_bind {k : α → Except InitError β} (h : fs = [] → k a = verdict gs b) :
    (verdict fs a >>= k) = verdict (fs ++ gs) b := by
  cases fs with
  | nil => exact h rfl
  | cons e fs => rfl

theorem verdict_map (f : α → β) :
    (verdict fs a >>= fun x => pure (f x)) = verdict fs (f a) := by
  cases fs <;> rfl

theorem mapM_verdict {γ : Type} {f : γ → Except InitError β} {failures : γ → List InitError}
    {g : γ → β} : ∀ {xs : List γ}, (∀ x ∈ xs, f x = verdict (failures x) (g x)) →
      xs.mapM f = verdict (xs.flatMap failures) (xs.map g)
  | [], _ => by rw [List.mapM_nil]; rfl
  | x :: xs, h => by
    have hx := h x (List.mem_cons_self ..)
    have hxs : xs.mapM f = _ := mapM_verdict fun y hy => h y (List.mem_cons_of_mem _ hy)
    rw [List.mapM_cons, hx, hxs, List.flatMap_cons, List.map_cons]
    exact verdict_bind fun _ => verdict_map _

end

/-! ## Logged steps -/

namespace Build

variable {α β : Type}

theorem result_bind (m : Build α) (k : α → Build β) :
    (m >>= k).result = m.result >>= fun a => (k a).result := by
  show (m.andThen k).result = _
  unfold andThen
  cases m.result <;> rfl

theorem result_pure (a : α) : (pure a : Build α).result = .ok a := rfl

theorem result_ofExcept (r : Except InitError α) : (ofExcept r).result = r := rfl

theorem result_log (event : LogEvent) (k : Unit → Build β) :
    (log event >>= k).result = (k ()).result := rfl

theorem result_foldlM (f : β → α → Build β) :
    ∀ (xs : List α) (b : β), (xs.foldlM f b).result = xs.foldlM (fun b a => (f b a).result) b
  | [], b => rfl
  | x :: xs, b => by
    rw [List.foldlM_cons, List.foldlM_cons, result_bind]
    exact congrArg _ (funext fun b' => result_foldlM f xs b')

section
variable {m : Build α} {a : α} {e : InitError} {events : List LogEvent}

theorem run_bind_ok (h : m.run = (.ok a, events)) (k : α → Build β) :
    (m >>= k).run = ((k a).run.1, events ++ (k a).run.2) := by
  obtain ⟨result, logged⟩ := m
  cases h
  rfl

theorem run_bind_error (h : m.run = (.error e, events)) (k : α → Build β) :
    (m >>= k).run = (.error e, events) := by
  obtain ⟨result, logged⟩ := m
  cases h
  rfl

theorem verdict_bind {γ : Type} {fs gs : List InitError} {b : β} {k : α → Build γ}
    {k' : β → Build γ} (h : k a = ofExcept (verdict gs b) >>= k') :
    (ofExcept (verdict fs a) >>= k) = ofExcept (verdict (fs ++ gs) b) >>= k' := by
  cases fs with
  | nil =>
    rw [List.nil_append, ← h]
    rfl
  | cons e fs => rfl

theorem run_verdict_bind (failures : List InitError) (a : α) (k : α → Build β) :
    failures = [] ∧ (ofExcept (verdict failures a) >>= k).run = (k a).run ∨
      ∃ e, failures.head? = some e ∧ (ofExcept (verdict failures a) >>= k).run =
        (.error e, []) := by
  cases failures with
  | nil => exact .inl ⟨rfl, rfl⟩
  | cons e rest => exact .inr ⟨e, rfl, rfl⟩

end

end Build

end ViewWeave
