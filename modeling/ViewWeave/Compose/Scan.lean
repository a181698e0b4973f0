import ViewWeave.Compose.Log
import ViewWeave.View.Fragment

/-!
# Scanning a root

The fragments under a root are found by going through its directories, each in the order in which
the source lists it.
-/

namespace ViewWeave

/-- Whether the last part of a path has a given last extension. -/
def hasExtension (path ext : String) : Bool :=
  let base := (baseName path).toList
  base.contains '.' && Text.afterLast '.' base == ext.toList

def IoError.endless : IoError :=
  ⟨.filesystemLoop, "Too many levels of symbolic links (os error 40)"⟩

/-- The fragments under a directory, whose directories are nested at most `n` deep. -/
def ViewSource.fragmentsIn (source : ViewSource) (ext : String) :
    Nat → String → Except InitError (List String)
  | 0, dir => .error (.io dir .endless)
  | n + 1, dir =>
    match source.list dir with
    | .error e => .error (.io dir e)
    | .ok entries => do
      let found ← entries.mapM fun e =>
        if e.isDir then fragmentsIn source ext n e.path
        else .ok (if hasExtension e.path ext then [e.path] else [])
      return found.flatten

def ViewSource.fragments (source : ViewSource) (root ext : String) :
    Except InitError (List String) :=
  source.fragmentsIn ext source.depth (String.ofList (Text.trimOf '/' root.toList))

def scan (source : ViewSource) (root : String) (role : Role) (ext : String) :
    Build (List String) := do
  let found ← Build.ofExcept (source.fragments root ext)
  Build.log (.scanned role root found.length)
  return found

end ViewWeave
