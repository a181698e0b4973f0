import Std.Time.DateTime.Timestamp
import ViewWeave.Command.Run
import ViewWeave.Demo.Helpers

/-!
# The program

The places that a request names are copied into a file tree, the request runs on the tree, and what
it printed and wrote is handed on.
-/

namespace ViewWeave.Command

def maxDepth : Nat := 64

/-- The paths that a request names, each with the depth to which it is copied. -/
def Request.paths : Request → List (String × Nat)
  | .check c | .list c _ => choicePaths c
  | .render c _ data out => choicePaths c ++ (data.toList ++ out.toList).map (·, 0)
  | .version | .help => []
where
  choicePaths (c : ViewChoice) : List (String × Nat) :=
    c.views.toList.map (·, maxDepth) ++ c.layout.toList.map (·, 0)

def Request.out? : Request → Option String
  | .render _ _ _ out => out
  | _ => none

/-- The names of a place without the names that stand for directories around it. -/
def plainNames (names : List Bytes) : List Bytes :=
  names.foldl (fun done n =>
    if n = dotName then done else if n = dotDotName then done.dropLast else done ++ [n]) []

def absolute (names : List Bytes) : String :=
  "/" ++ "/".intercalate (names.map Text.decodeLossy)

/-- The tree with what lies at a place, and the names in it. A place that cannot be read is left
out, and nothing is read from a device. -/
def copyItem (names : List Bytes) (t : FileTree) : IO (FileTree × List String) := do
  try
    let place ← IO.FS.realPath (absolute names)
    match (← place.metadata).type with
    | .dir => return (t.putDirs (plainNames names), (← place.readDir).toList.map (·.fileName))
    | .file => return (t.putBelow (plainNames names) (.file (← IO.FS.readBinFile place).toList), [])
    | _ => return (t.putBelow (plainNames names) (.file []), [])
  catch _ => return (t, [])

def copyPlace : Nat → List Bytes → FileTree → IO FileTree
  | 0, names, t => return (← copyItem names t).1
  | depth + 1, names, t => do
    let (t, found) ← copyItem names t
    found.foldlM (fun t name => copyPlace depth (names ++ [Text.utf8 name]) t) t

def copyPath (t : FileTree) (path : String × Nat) : IO FileTree := do
  let names := t.namesOf path.1
  let t ← (List.range names.length).foldlM (fun t n => copyPlace 0 (names.take n) t) t
  copyPlace path.2 names t

def copyTree (request : Request) : IO FileTree := do
  let here ← IO.currentDir
  request.paths.foldlM copyPath ⟨[], pathNames (Text.utf8 here.toString)⟩

/-- Writes a file as it is in a tree, unless it stands for a device. -/
def handOn (tree : FileTree) (path : String) : IO UInt32 := do
  match tree.place? path with
  | .ok place =>
    match tree.useAt .roomy place, tree.item? place with
    | .kept, some (.file content) =>
      try
        IO.FS.writeBinFile path ⟨content.toArray⟩
        return 0
      catch e =>
        IO.eprint (Report.error s!"cannot write '{path}'" [toString e])
        return 1
    | _, _ => return 0
  | .error _ => return 0

end ViewWeave.Command

open ViewWeave in
def main (args : List String) : IO UInt32 := do
  let request := Command.request? args
  let tree ← Command.copyTree (request.getD .help)
  let start ← Std.Time.Timestamp.now
  let helpers := Demo.helpers start.toSecondsSinceUnixEpoch.val
  let ending := Command.run .plain tree helpers args
  (← IO.getStdout).write ⟨ending.stdout.toArray⟩
  IO.eprint ending.stderr
  match ending.code, request.bind (·.out?) with
  | 0, some path => Command.handOn ending.tree path
  | code, _ => return code.toUInt32
