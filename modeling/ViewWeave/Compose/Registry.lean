import ViewWeave.Render.Outcome
import ViewWeave.View.Name

/-!
# Registries

The composed templates by name, and what is needed to render them. A registry never changes.
-/

namespace ViewWeave

structure ComposedTemplate where
  name : TemplateName
  source : String
  /-- The base name of the page. -/
  label : String
  layoutPath : String
  pagePath : String
  deriving DecidableEq, Repr

def ComposedTemplate.bytes (t : ComposedTemplate) : Nat := t.source.utf8ByteSize

def ComposedTemplate.origin (t : ComposedTemplate) : String := s!"{t.layoutPath} + {t.pagePath}"

/-- Composed templates by name, in ascending order of the names. -/
structure Registry where
  templates : List (String × ComposedTemplate)
  engine : Engine

namespace Registry

def lookup (r : Registry) (name : String) : Option ComposedTemplate := r.templates.lookup name

def contains (r : Registry) (name : String) : Bool := (r.lookup name).isSome

def names (r : Registry) : List String := r.templates.map (·.1)

def toList (r : Registry) : List ComposedTemplate := r.templates.map (·.2)

def size (r : Registry) : Nat := r.templates.length

end Registry

inductive RenderError
  | notFound (name : String)
  | execution (name : String) (failure : Failure)
  deriving DecidableEq, Repr

def RenderError.message : RenderError → String
  | .notFound name => s!"template {name} not found"
  | .execution name f => s!"failed to render template {name}: " ++ f.message

def Failure.noVariables : Failure :=
  ⟨"Creating a Context from a Value/Serialize requires it being a JSON object", []⟩

def dataFields? : Value → Option Fields
  | .null => some []
  | .obj fields => some fields
  | _ => none

namespace Registry

/-- The rendering of a template for a writer that takes so many bytes, or all, and what comes of
it. -/
def outcomeInto (r : Registry) (around : Surroundings) (room : Option Nat) (name : String)
    (data : Value) : Except RenderError (Job × Outcome) :=
  match r.lookup name, r.engine.library.lookup name with
  | some t, some template =>
    match dataFields? data with
    | none => .error (.execution name .noVariables)
    | some fields =>
      let job : Job := ⟨r.engine, around, template, fields⟩
      .ok (job, job.run room t.source)
  | _, _ => .error (.notFound name)

def outcome (r : Registry) (around : Surroundings) (name : String) (data : Value) :
    Except RenderError (Job × Outcome) :=
  r.outcomeInto around none name data

/-- Renders a template into a writer that takes `room` bytes, or any number of them: what the writer
took, and the result. -/
def renderInto (r : Registry) (around : Surroundings) (room : Option Nat) (name : String)
    (data : Value) : List UInt8 × Except RenderError Unit :=
  match r.outcomeInto around room name data with
  | .error e => ([], .error e)
  | .ok (job, o) => (o.bytes, (o.ended job).mapError (.execution name))

def render (r : Registry) (around : Surroundings) (name : String) (data : Value) :
    List UInt8 × Except RenderError Unit :=
  r.renderInto around none name data

/-- Renders a template for a request, of which nothing is looked at. -/
def renderView {ρ : Type} (r : Registry) (around : Surroundings) (room : Option Nat)
    (name : String) (data : Value) (_request : Option ρ) : List UInt8 × Except RenderError Unit :=
  r.renderInto around room name data

def renderToString (r : Registry) (around : Surroundings) (name : String) (data : Value) :
    Except RenderError String :=
  let (written, ended) := r.render around name data
  ended.map fun _ => Text.decodeLossy written

end Registry

end ViewWeave
