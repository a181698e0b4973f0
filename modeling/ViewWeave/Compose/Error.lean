import ViewWeave.Markup.Template
import ViewWeave.Source.Basic
import ViewWeave.View.Fragment

/-!
# Errors of composition

Why no registry can be built from a view tree.
-/

namespace ViewWeave

/-- Why no registry can be built. -/
inductive InitError
  | io (path : String) (e : IoError)
  | missingMarker (path : String) (role : Role)
  | compile (name label : String) (fault : TemplateFault)
  | unboundFunction (name function : String)
  | duplicateName (name first second : String)
  | invalidHelperName (name : String)
  deriving DecidableEq, Repr

def InitError.message : InitError → String
  | .io path e => s!"view source error at {path}: " ++ e.message
  | .missingMarker path role =>
    s!"invalid fragment name {path}: " ++ role.word ++ " file name must end in the template marker"
  | .compile name label fault =>
    s!"failed to compile template {name} ({label}): " ++ fault.message name
  | .unboundFunction name f => s!"template {name} calls unbound function `{f}`"
  | .duplicateName name first second =>
    s!"template name {name} produced by both {first} and {second}"
  | .invalidHelperName name => s!"invalid helper function name `{name}`"

end ViewWeave
