import ViewWeave.Text.Affix

/-!
# Fragments

A fragment is one template file. Its path is relative to the root of the view tree and has its
parts separated by slashes; its role is the root under which it was found.
-/

namespace ViewWeave

inductive Role
  | layout | page | shared
  deriving DecidableEq, Repr

def Role.word : Role → String
  | .layout => "layout"
  | .page => "page"
  | .shared => "shared"

def baseName (path : String) : String := String.ofList (Text.afterLast '/' path.toList)

structure Fragment where
  path : String
  role : Role
  content : String
  deriving DecidableEq, Repr

def Fragment.baseName (f : Fragment) : String := ViewWeave.baseName f.path

end ViewWeave
