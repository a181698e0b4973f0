import ViewWeave.Proofs.Compose.Library
import ViewWeave.Proofs.Registry.Writer
import ViewWeave.Proofs.Registry.Calls
import ViewWeave.Proofs.Text.Decoding

/-!
# Ways to render

A template may be rendered into a writer, for a request, or to a text. All of them refuse a name
that is not registered before they look at the data, and data that are no fields before they write
anything.
-/

namespace ViewWeave

/-! ## Names and data -/

theorem dataFields?_eq_none_iff {data : Value} :
    dataFields? data = none ↔ data ≠ .null ∧ ∀ fields, data ≠ .obj fields := by
  cases data <;> simp [dataFields?]

namespace Registry

variable {r : Registry} {around : Surroundings} {name : String}

theorem lookup_isSome_iff : (r.lookup name).isSome ↔ name ∈ r.names := Sorted.lookup_isSome_iff

theorem lookup_eq_none_of_not_mem (h : name ∉ r.names) : r.lookup name = none := by
  rw [← lookup_isSome_iff, Option.not_isSome_iff_eq_none] at h
  exact h

theorem renderInto_null (room : Option Nat) :
    r.renderInto around room name .null = r.renderInto around room name (.obj []) := rfl

end Registry

section
variable {v : ViewLayout} {helpers : Helpers} {r : Registry} {name : String}

theorem WellMade.notFound_iff (h : WellMade v helpers r) (around : Surroundings) (data : Value)
    (room : Option Nat) :
    (∃ n, (r.renderInto around room name data).2 = .error (.notFound n)) ↔ name ∉ r.names := by
  constructor
  · intro ⟨n, found⟩ registered
    obtain ⟨t, ht⟩ := Option.isSome_iff_exists.mp (Registry.lookup_isSome_iff.mpr registered)
    obtain ⟨-, bytes, ended, rendered⟩ := h.renderInto_cases ht around data room
    rw [rendered] at found
    cases ended <;> cases found
  · intro missing
    exact ⟨name, by rw [Registry.renderInto_missing (Registry.lookup_eq_none_of_not_mem missing)]⟩

end

/-! ## Texts -/

/-- What a writer without limit gets spells a text, also if the rendering fails. -/
theorem Registry.render_text (r : Registry) (around : Surroundings) (name : String)
    (data : Value) : ∃ text, (r.render around name data).1 = Text.utf8 text := by
  unfold render
  rcases r.entry_or_error around name data with ⟨t, template, fields, ht, hl, hd⟩ | ⟨e, he⟩
  · let job : Job := ⟨r.engine, around, template, fields⟩
    obtain ⟨pieces, bytes⟩ := job.runTo_bytes (job.depth t.source)
    refine ⟨String.join pieces, ?_⟩
    rw [renderInto_eq ht hl hd, Text.utf8_join]
    exact bytes
  · refine ⟨"", ?_⟩
    rw [he]
    rfl

section
variable {r : Registry} {around : Surroundings} {name : String} {data : Value}

theorem Registry.renderToString_eq_ok_iff {t : String} :
    r.renderToString around name data = .ok t ↔
      r.render around name data = (Text.utf8 t, .ok ()) := by
  obtain ⟨text, written⟩ := r.render_text around name data
  unfold renderToString
  generalize r.render around name data = result at written
  obtain ⟨bytes, ended⟩ := result
  obtain rfl : bytes = Text.utf8 text := written
  cases ended with
  | error e => simp [Except.map]
  | ok =>
    simp only [Except.map, Text.decodeLossy_utf8, Except.ok.injEq, Prod.mk.injEq, and_true]
    exact ⟨fun same => congrArg Text.utf8 same, Text.utf8_injective⟩

theorem Registry.renderToString_eq_error_iff {e : RenderError} :
    r.renderToString around name data = .error e ↔ (r.render around name data).2 = .error e := by
  unfold renderToString
  generalize r.render around name data = result
  obtain ⟨bytes, ended⟩ := result
  cases ended with
  | error e => simp [Except.map]
  | ok => simp [Except.map]

end

/-! ## Agreement -/

/-- **Ways to render.** Only a name that is not registered is not found, whatever the data and the
writer, and nothing is written then. Of a registered name, no data are as good as empty ones, and
other data that are no fields are refused before anything is written. A request changes nothing, and
a text is what a writer without limit gets. -/
theorem render_agrees {order : WalkOrder} {source : ViewSource} {v : ViewLayout}
    {helpers : Helpers} {r : Registry} (h : (compose order source v helpers).run.1 = .ok r)
    (around : Surroundings) (name : String) (data : Value) :
    (∀ room,
      ((∃ n, (r.renderInto around room name data).2 = .error (.notFound n)) ↔ name ∉ r.names) ∧
      (name ∉ r.names → r.renderInto around room name data = ([], .error (.notFound name)))) ∧
    (name ∈ r.names → ∀ room,
      r.renderInto around room name .null = r.renderInto around room name (.obj [])) ∧
    (name ∈ r.names → data ≠ .null → (∀ fields, data ≠ .obj fields) →
      ∀ room, ∃ f, r.renderInto around room name data = ([], .error (.execution name f))) ∧
    (∀ room (ρ : Type) (request : Option ρ),
      r.renderView around room name data request = r.renderInto around room name data) ∧
    (∀ t, r.renderToString around name data = .ok t ↔
      r.render around name data = (Text.utf8 t, .ok ())) ∧
    (∀ e, r.renderToString around name data = .error e ↔
      (r.render around name data).2 = .error e) := by
  have made : WellMade v helpers r := wellMade_of_compose h
  refine ⟨fun room => ⟨made.notFound_iff around data room, fun missing =>
      Registry.renderInto_missing (Registry.lookup_eq_none_of_not_mem missing) around room data⟩,
    fun _ room => Registry.renderInto_null room, ?_, fun room ρ request => rfl,
    fun t => Registry.renderToString_eq_ok_iff, fun e => Registry.renderToString_eq_error_iff⟩
  intro registered some fields room
  obtain ⟨t, ht⟩ := Option.isSome_iff_exists.mp (Registry.lookup_isSome_iff.mpr registered)
  obtain ⟨refused, -⟩ := made.renderInto_cases ht around data room
  exact ⟨_, refused (dataFields?_eq_none_iff.mpr ⟨some, fields⟩)⟩

theorem render_agrees_greeting :
    let r := greetingRegistry
    (compose .lastFirst greeting .standard greeters).run.1 = .ok r ∧
      r.renderInto .bare (some 3) "plain:none" (.bool true) =
        ([], .error (.notFound "plain:none")) ∧
      (∃ f, r.renderInto .bare none "plain:about" (.arr []) =
        ([], .error (.execution "plain:about" f))) ∧
      r.renderToString .bare "plain:about" .null = .ok "hi[0]" ∧
      r.render .bare "plain:about" .null = (Text.utf8 "hi[0]", .ok ()) := by
  intro r
  have names : r.names = ["plain:about"] := by decide +kernel
  have text : r.renderToString .bare "plain:about" .null = .ok "hi[0]" := by decide +kernel
  obtain ⟨missing, -⟩ := render_agrees greeting_ok .bare "plain:none" (.bool true)
  obtain ⟨-, -, refused, -⟩ := render_agrees greeting_ok .bare "plain:about" (.arr [])
  obtain ⟨-, -, -, -, written, -⟩ := render_agrees greeting_ok .bare "plain:about" .null
  refine ⟨greeting_ok, (missing (some 3)).2 ?_, refused ?_ ?_ ?_ none, text, (written _).mp text⟩
  · simp [r, names]
  · simp [r, names]
  · exact nofun
  · exact nofun

end ViewWeave
