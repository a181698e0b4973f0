import ViewWeave.Source.FileTree
import ViewWeave.View.LayoutText

/-!
# View layouts in files
-/

namespace ViewWeave

def LayoutFault.message : LayoutFault → String
  | .malformed => "malformed document"
  | .mismatch m => m

inductive LayoutError
  | io (path : String) (e : IoError)
  | parse (path : String) (fault : LayoutFault)
  deriving DecidableEq, Repr

namespace LayoutError

def cause : LayoutError → String
  | .io _ e => e.message
  | .parse _ fault => fault.message

def message : LayoutError → String
  | .io path e => s!"cannot read view layout at {path}: " ++ e.message
  | .parse path fault => s!"failed to parse view layout at {path}: " ++ fault.message

end LayoutError

def ViewLayout.load (tree : FileTree) (path : String) : Except LayoutError ViewLayout := do
  let text ← (tree.readFile path).mapError (.io path)
  (ViewLayout.ofText text).mapError (.parse path)

end ViewWeave
