import ViewWeave.Source.Basic
import ViewWeave.Data.Sorted
import ViewWeave.Text.Affix

/-!
# Embedded sources

A view tree given as a table of files. Directories exist as far as files lie in them; one without
files has to be declared.
-/

namespace ViewWeave

structure EmbeddedSource where
  files : List (String × String)
  /-- Declared directories. -/
  dirs : List String
  deriving Repr

namespace EmbeddedSource

def trimmed (path : String) : String := String.ofList (Text.trimOf '/' path.toList)

/-- The source of a list of files; of two files with one path the later counts. -/
def ofFiles (files : List (String × String)) : EmbeddedSource :=
  ⟨Sorted.ofList (files.map fun (p, c) => (trimmed p, c)), []⟩

def withDir (s : EmbeddedSource) (path : String) : EmbeddedSource :=
  { s with dirs := s.dirs ++ [trimmed path] }

def size (s : EmbeddedSource) : Nat := s.files.length

/-- What a stored path shows of the directory `dir`: its child that leads there, and whether that
child is a directory. -/
def child? (dir : List Char) (path : String) (isDir : Bool) : Option (String × Bool) :=
  let start := if dir.isEmpty then [] else dir ++ ['/']
  match Text.dropStart? start path.toList with
  | none => none
  | some [] => none
  | some rest =>
    match Text.splitOnce? '/' rest with
    | some (name, _) => some (String.ofList (childPath dir name), true)
    | none => some (path, isDir)

/-- The children of a directory; what is stored later says whether a child is a directory. -/
def children (s : EmbeddedSource) (dir : List Char) : List (String × Bool) :=
  Sorted.ofList (s.files.filterMap (fun (p, _) => child? dir p false) ++
    s.dirs.filterMap (fun p => child? dir p true))

def list (s : EmbeddedSource) (path : String) : Except IoError (List Entry) :=
  let dir := trimmed path
  if (s.files.lookup dir).isSome then .error ⟨.invalidInput, s!"{dir} is not a directory"⟩
  else
    let found := s.children dir.toList
    if found.isEmpty && !s.dirs.contains dir then
      .error ⟨.notFound, s!"no embedded directory {dir}"⟩
    else .ok (found.map fun (p, isDir) => ⟨p, isDir⟩)

def read (s : EmbeddedSource) (path : String) : Except IoError String :=
  match s.files.lookup (trimmed path) with
  | some content => .ok content
  | none => .error ⟨.notFound, s!"no embedded file {path}"⟩

def longest (s : EmbeddedSource) : Nat :=
  (s.files.map fun (p, _) => p.length).foldl max ((s.dirs.map String.length).foldl max 0)

def toSource (s : EmbeddedSource) : ViewSource := ⟨s.list, s.read, s.longest + 2⟩

end EmbeddedSource

end ViewWeave
