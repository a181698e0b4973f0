/-!
# View sources

A view source lists directories and reads files. Paths are relative to the root of the view tree
and have their parts separated by slashes.
-/

namespace ViewWeave

inductive IoKind
  | notFound | notADirectory | isADirectory | invalidInput | invalidData | permissionDenied
  | filesystemLoop | brokenPipe | storageFull
  deriving DecidableEq, Repr

structure IoError where
  kind : IoKind
  message : String
  deriving DecidableEq, Repr

structure Entry where
  /-- The path from the root of the view tree. -/
  path : String
  isDir : Bool
  deriving DecidableEq, Repr

structure ViewSource where
  /-- The children of a directory, in ascending byte order of their paths. -/
  list : String → Except IoError (List Entry)
  read : String → Except IoError String
  /-- A number of levels that no chain of nested directories exceeds. -/
  depth : Nat

def childPath (dir : List Char) (name : List Char) : List Char :=
  if dir.isEmpty then name else dir ++ '/' :: name

end ViewWeave
