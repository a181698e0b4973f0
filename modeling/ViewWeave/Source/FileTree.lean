import ViewWeave.Source.Basic
import ViewWeave.Data.Sorted
import ViewWeave.Text.Affix
import ViewWeave.Text.Utf8

/-!
# File trees

A directory with everything below it, as a file system shows it: names and contents are bytes, and
links are followed where a path leads through them. A view tree may be read from such a directory.
-/

namespace ViewWeave

abbrev Bytes := List UInt8

inductive Item
  | file (content : Bytes)
  | link (target : Bytes)
  | dir
  deriving DecidableEq, Repr

/-- A directory with everything below it; the path of each item is the list of names that lead to
it, and every item but the topmost ones has its parent in the list. -/
structure FileTree where
  items : List (List Bytes × Item)
  /-- The directory where paths start that do not begin with a slash. -/
  here : List Bytes := []
  deriving Repr

/-! ## Failures -/

namespace IoError

def noEntry : IoError := ⟨.notFound, "No such file or directory (os error 2)"⟩
def notDir : IoError := ⟨.notADirectory, "Not a directory (os error 20)"⟩
def isDir : IoError := ⟨.isADirectory, "Is a directory (os error 21)"⟩
def loop : IoError := ⟨.filesystemLoop, "Too many levels of symbolic links (os error 40)"⟩
def badText : IoError := ⟨.invalidData, "stream did not contain valid UTF-8"⟩
def nulName : IoError := ⟨.invalidInput, "file name contained an unexpected NUL byte"⟩
def noSpace : IoError := ⟨.storageFull, "No space left on device (os error 28)"⟩

end IoError

/-! ## Paths -/

def slashByte : UInt8 := 47

/-- The names that stand for the directory itself and for its parent. -/
def dotName : Bytes := [46]
def dotDotName : Bytes := [46, 46]

def splitBytes : Bytes → List Bytes
  | [] => [[]]
  | b :: bs =>
    if b = slashByte then [] :: splitBytes bs
    else
      match splitBytes bs with
      | [] => [[b]]
      | w :: ws => (b :: w) :: ws

/-- The names of a path. A slash at the end asks for a directory, like a dot after it. -/
def pathNames (path : Bytes) : List Bytes :=
  let parts := (splitBytes path).filter fun p => !p.isEmpty
  if path.getLast? = some slashByte then parts ++ [dotName] else parts

namespace FileTree

/-- What lies at a list of names that holds no links; the top is a directory. -/
def item? (t : FileTree) (path : List Bytes) : Option Item :=
  if path.isEmpty then some .dir else t.items.lookup path

/-- Follows the names of a path from directory `here` to the place they lead to, passing at most
`links` links. A path that leaves the tree leads nowhere. -/
def walk (t : FileTree) (links : Nat) (here : List Bytes) (names : List Bytes) :
    Except IoError (List Bytes) :=
  match names with
  | [] => .ok here
  | name :: rest =>
    match t.item? here with
    | some .dir =>
      if name = dotName then walk t links here rest
      else if name = dotDotName then
        if here.isEmpty then .error .noEntry else walk t links here.dropLast rest
      else
        match t.item? (here ++ [name]) with
        | none => .error .noEntry
        | some (.link target) =>
          match links with
          | 0 => .error .loop
          | links + 1 =>
            -- a target that starts at the top lies outside of the tree
            if target.head? = some slashByte then .error .noEntry
            else walk t links here (pathNames target ++ rest)
        | some _ => walk t links (here ++ [name]) rest
    | _ => .error .notDir
termination_by (links, names.length)

def maxLinks : Nat := 40

def find (t : FileTree) (names : List Bytes) : Except IoError (List Bytes) :=
  if names.any (·.contains 0) then .error .nulName else t.walk maxLinks [] names

def readBytes (t : FileTree) (names : List Bytes) : Except IoError Bytes := do
  let place ← t.find names
  match t.item? place with
  | some (.file content) => .ok content
  | some .dir => .error .isDir
  | _ => .error .noEntry

def readText (t : FileTree) (names : List Bytes) : Except IoError String := do
  let content ← t.readBytes names
  match Text.decode? content with
  | some s => .ok s
  | none => .error .badText

def namesOf (t : FileTree) (path : String) : List Bytes :=
  let path := Text.utf8 path
  if path.head? = some slashByte then pathNames path else t.here ++ pathNames path

def readFile (t : FileTree) (path : String) : Except IoError String :=
  if path.isEmpty then .error .noEntry else t.readText (t.namesOf path)

def isDirectory (t : FileTree) (names : List Bytes) : Except IoError Bool := do
  let place ← t.find names
  return t.item? place == some .dir

def namesIn (t : FileTree) (names : List Bytes) : Except IoError (List Bytes) := do
  let place ← t.find names
  match t.item? place with
  | some .dir =>
    let found := t.items.filterMap fun (path, _) =>
      if path.dropLast = place && !path.isEmpty then path.getLast? else none
    .ok (found.mergeSort fun a b => decide (a ≤ b))
  | _ => .error .notDir

/-! ## Building -/

/-- The tree with an item put at a path; what lay there before is gone. -/
def put (t : FileTree) (path : List Bytes) (i : Item) : FileTree :=
  { t with items := t.items.filter (fun (p, _) => p != path) ++ [(path, i)] }

def putDirs (t : FileTree) (path : List Bytes) : FileTree :=
  (List.range path.length).foldl
    (fun t n =>
      let p := path.take (n + 1)
      if (t.item? p).isSome then t else t.put p .dir) t

def putBelow (t : FileTree) (path : List Bytes) (i : Item) : FileTree :=
  (t.putDirs path.dropLast).put path i

/-- The tree made of directories, files and links, in this order. -/
def ofItems (dirs : List Bytes) (files links : List (Bytes × Bytes)) : FileTree :=
  let parts (p : Bytes) := (splitBytes p).filter fun n => !n.isEmpty && n != dotName
  let t := dirs.foldl (fun t d => t.putDirs (parts d)) { items := [] }
  let t := files.foldl (fun t (p, c) => t.putBelow (parts p) (.file c)) t
  links.foldl (fun t (p, target) => t.putBelow (parts p) (.link target)) t

/-- The tree in a directory of a new tree, where relative paths start. -/
def inside (t : FileTree) (name : Bytes) : FileTree :=
  ⟨([name], .dir) :: t.items.map (fun (path, i) => (name :: path, i)), name :: t.here⟩

end FileTree

/-! ## A directory as a view source -/

structure DirSource where
  tree : FileTree
  root : List Bytes

namespace DirSource

def resolve (s : DirSource) (path : List Char) : List Bytes :=
  s.root ++ ((Text.splitAt '/' path).filter fun p => !p.isEmpty).map
    fun p => Text.utf8 (String.ofList p)

def entry (s : DirSource) (dir : List Char) (name : Bytes) : Except IoError Entry :=
  match Text.decode? name with
  | none => .error ⟨.invalidData, s!"non UTF-8 file name {Text.decodeLossy name}"⟩
  | some text => do
    let isDir ← s.tree.isDirectory (s.resolve dir ++ [name])
    return ⟨String.ofList (childPath dir text.toList), isDir⟩

def list (s : DirSource) (path : String) : Except IoError (List Entry) := do
  let dir := Text.trimOf '/' path.toList
  let names ← s.tree.namesIn (s.resolve dir)
  names.mapM (s.entry dir)

def read (s : DirSource) (path : String) : Except IoError String :=
  s.tree.readText (s.resolve path.toList)

def longest (s : DirSource) : Nat := (s.tree.items.map fun (p, _) => p.length).foldl max 0

/-- The directory as a view source. Between two links a path descends at most the longest path. -/
def toSource (s : DirSource) : ViewSource :=
  ⟨s.list, s.read, (FileTree.maxLinks + 1) * (s.longest + 2) + s.root.length⟩

end DirSource

end ViewWeave
