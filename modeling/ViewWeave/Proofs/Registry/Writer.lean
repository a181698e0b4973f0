import ViewWeave.Proofs.Registry.Rendering
import ViewWeave.Proofs.Render.Writing

/-!
# Writers that fail

A writer that takes only so many bytes cuts the output, and does nothing else to it: it gets the
first bytes of what a writer without limit gets, and if it gets all of them the result is the same.
-/

namespace ViewWeave

/-- The failure is that the writer took no more. -/
def Failure.IsRefusal (f : Failure) : Prop :=
  f.causes = Fault.refused.message :: Fault.refused.causes

theorem Job.failure_isRefusal (job : Job) (site : Site) :
    (job.failure site .refused).IsRefusal := rfl

theorem Job.run_limited (job : Job) (source : String) (n : Nat) :
    (job.run (some n) source).bytes = (job.run none source).bytes.take n ∧
      if (job.run none source).bytes.length ≤ n then
        (job.run (some n) source).ended job = (job.run none source).ended job
      else ∃ f : Failure, f.IsRefusal ∧ (job.run (some n) source).ended job = .error f := by
  obtain ⟨bytes, fault⟩ := job.runInto_limited (job.depth source) n
  refine ⟨bytes, ?_⟩
  unfold run Outcome.ended
  unfold runTo at fault
  split at fault
  case isTrue fits => rw [if_pos fits, fault]
  case isFalse fits =>
    obtain ⟨site, refused⟩ := fault
    rw [if_neg fits, refused]
    exact ⟨_, job.failure_isRefusal site, rfl⟩

/-- **Cut output.** A writer that takes `n` bytes and then fails gets the first `n` bytes of what a
writer without limit gets, whatever the template, its name and the data. If these are all, the
result is the same; if not, it is that the writer failed. -/
theorem render_limited (r : Registry) (around : Surroundings) (name : String) (data : Value)
    (n : Nat) :
    ∃ f : Failure, f.IsRefusal ∧ r.renderInto around (some n) name data =
      if (r.render around name data).1.length ≤ n then r.render around name data
      else ((r.render around name data).1.take n, .error (.execution name f)) := by
  have some_refusal : ∃ f : Failure, f.IsRefusal := ⟨⟨"", _⟩, rfl⟩
  unfold Registry.render
  rcases r.entry_or_error around name data with ⟨t, template, fields, ht, hl, hd⟩ | ⟨e, he⟩
  · let job : Job := ⟨r.engine, around, template, fields⟩
    obtain ⟨bytes, ended⟩ := job.run_limited t.source n
    rw [Registry.renderInto_eq ht hl hd, Registry.renderInto_eq ht hl hd]
    dsimp only
    split at ended
    case isTrue fits =>
      obtain ⟨f, hf⟩ := some_refusal
      refine ⟨f, hf, ?_⟩
      rw [if_pos fits, bytes, ended, List.take_of_length_le fits]
    case isFalse fits =>
      obtain ⟨f, hf, refused⟩ := ended
      refine ⟨f, hf, ?_⟩
      rw [if_neg fits, bytes, refused]
      rfl
  · simpa [he] using some_refusal

end ViewWeave
