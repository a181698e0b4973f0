import ViewWeave.Source.FileTree

/-!
# Writing files

A file is opened first, which empties it or makes it, and then the bytes are written to it. Each of
the two may fail, so a file that could not be written may be left empty or cut.
-/

namespace ViewWeave

/-- Where the bytes go that are written to a file. -/
inductive Use
  | kept
  /-- The file stands for the standard output. -/
  | printed
  | dropped
  deriving DecidableEq, Repr

/-- What the files of a tree do when they are written. -/
structure Disk where
  use : List Bytes → Use
  /-- Why the file at a place is not opened, though there is a place for it. -/
  refusal? : List Bytes → Option IoError
  /-- How many bytes a file takes, and how writing fails if there are more. -/
  room? : List Bytes → Option (Nat × IoError)

namespace Disk

/-- Every file takes all bytes; those that stand for devices are where they usually are. -/
def roomy : Disk where
  use place :=
    if place = ["dev", "stdout"].map Text.utf8 then .printed
    else if place = ["dev", "null"].map Text.utf8 then .dropped
    else .kept
  refusal? _ := none
  room? _ := none

/-- The bytes that a file takes, and how writing them ends. -/
def take (disk : Disk) (place : List Bytes) (content : Bytes) : Bytes × Except IoError Unit :=
  match disk.room? place with
  | none => (content, .ok ())
  | some (n, e) =>
    if content.length ≤ n then (content, .ok ()) else (content.take n, .error e)

end Disk

namespace FileTree

/-! ## Places -/

/-- The place where a file would be written: where the names of a path lead, or a new name in a
directory; a link to nothing leads to what it names. At most `links` links are passed. -/
def writePlace (t : FileTree) (links : Nat) (here : List Bytes) (names : List Bytes) :
    Except IoError (List Bytes) :=
  match names with
  | [] => .error .isDir
  | name :: rest =>
    match t.item? here with
    | some .dir =>
      if name = dotName then writePlace t links here rest
      else if name = dotDotName then
        if here.isEmpty then .error .noEntry else writePlace t links here.dropLast rest
      else
        match t.item? (here ++ [name]) with
        | none => if rest.isEmpty then .ok (here ++ [name]) else .error .noEntry
        | some (.file _) => if rest.isEmpty then .ok (here ++ [name]) else .error .notDir
        | some (.link target) =>
          match links with
          | 0 => .error .loop
          | links + 1 =>
            if target.head? = some slashByte then .error .noEntry
            else writePlace t links here (pathNames target ++ rest)
        | some .dir => writePlace t links (here ++ [name]) rest
    | _ => .error .notDir
termination_by (links, names.length)

/-- The place where a path leads if it is to be written. -/
def place? (t : FileTree) (path : String) : Except IoError (List Bytes) :=
  if path.isEmpty then .error .noEntry
  else
    let names := t.namesOf path
    if names.any (·.contains 0) then .error .nulName
    else if (Text.utf8 path).getLast? = some slashByte then
      -- a slash at the end asks for a directory, and no file is one
      match t.find names.dropLast.dropLast with
      | .ok place => if t.item? place = some .dir then .error .isDir else .error .notDir
      | .error e => .error e
    else t.writePlace maxLinks [] names

/-! ## Two steps -/

/-- A file that was opened to be written, in the tree as it is then. -/
structure Opened where
  tree : FileTree
  place : List Bytes
  use : Use

/-- What a place is used for; where nothing lies yet, a file is made that keeps what is written. -/
def useAt (t : FileTree) (disk : Disk) (place : List Bytes) : Use :=
  if (t.item? place).isSome then disk.use place else .kept

def openAt (t : FileTree) (disk : Disk) (path : String) : Except IoError Opened := do
  let place ← t.place? path
  match disk.refusal? place, t.useAt disk place with
  | some e, _ => .error e
  | none, .kept => .ok ⟨t.put place (.file []), place, .kept⟩
  | none, use => .ok ⟨t, place, use⟩

/-- How the writing of a file ends: the tree after it and what came to the standard output. -/
structure Saving where
  tree : FileTree
  printed : Bytes
  ended : Except IoError Unit

/-- Writes bytes to a file that was just opened. -/
def Opened.fill (o : Opened) (disk : Disk) (content : Bytes) : Saving :=
  let (taken, ended) := disk.take o.place content
  match o.use with
  | .kept => ⟨o.tree.put o.place (.file taken), [], ended⟩
  | .printed => ⟨o.tree, taken, ended⟩
  | .dropped => ⟨o.tree, [], ended⟩

def write (t : FileTree) (disk : Disk) (path : String) (content : Bytes) : Saving :=
  match t.openAt disk path with
  | .ok o => o.fill disk content
  | .error e => ⟨t, [], .error e⟩

end FileTree

end ViewWeave
