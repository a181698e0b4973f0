import ViewWeave.Render.Filter.Number
import ViewWeave.Render.Filter.Sequence
import ViewWeave.Render.Filter.Text

/-!
# The filters by name
-/

namespace ViewWeave

def filter? (name : String) : Option Filter :=
  (Filter.texts ++ Filter.sequences ++ Filter.numbers).lookup name

end ViewWeave
