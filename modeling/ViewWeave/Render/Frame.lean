import ViewWeave.Markup.Template
import ViewWeave.Render.Pointer

/-!
# Frames

The variables that a template sees lie in frames: one for the template itself, and one for each
loop, included template and macro it is in. A macro and the template itself see nothing of the
frames outside.
-/

namespace ViewWeave

inductive Signal
  | none | stop | next
  deriving DecidableEq, Repr

structure Turn where
  value : String
  /-- The name of the key, if the loop runs over an object. -/
  key : Option String
  item : Value
  itemKey : String
  index : Nat
  isLast : Bool
  signal : Signal

inductive FrameKind
  | origin
  | definition (space name : String)
  | loop
  | inclusion
  deriving DecidableEq, Repr

structure Frame where
  kind : FrameKind
  /-- The template that is being walked through. -/
  template : Template
  vars : Fields
  turn : Option Turn

def Fields.find? (fs : Fields) (key : List Char) : Option Value :=
  match Text.splitOnce? '.' key with
  | some (root, rest) => (fs.get? (String.ofList root)).bind (Pointer.find? rest)
  | none => fs.get? (String.ofList key)

namespace Turn

def fact? (t : Turn) (key : List Char) : Option Value :=
  if key = "loop.index".toList then some (.ofInt (t.index + 1))
  else if key = "loop.index0".toList then some (.ofInt t.index)
  else if key = "loop.first".toList then some (.bool (t.index == 0))
  else if key = "loop.last".toList then some (.bool t.isLast)
  else none

def find? (t : Turn) (key : List Char) : Option Value :=
  match t.fact? key with
  | some v => some v
  | none =>
    if key = t.value.toList then some t.item
    else if t.key.any (·.toList == key) then some (.str t.itemKey)
    else
      match Text.splitOnce? '.' key with
      | some (root, rest) => if root = t.value.toList then Pointer.find? rest t.item else none
      | none => none

def vars (t : Turn) : Fields :=
  (t.value, t.item) :: (t.key.map fun k => (k, Value.str t.itemKey)).toList

end Turn

namespace Frame

def isClosed (f : Frame) : Bool :=
  match f.kind with
  | .origin | .definition _ _ => true
  | .loop | .inclusion => false

def isLoop (f : Frame) : Bool := f.kind == .loop

def find? (f : Frame) (key : List Char) : Option Value :=
  (f.vars.find? key).or (f.turn.bind (·.find? key))

/-- What a key leads to in frames of which the innermost is the first. -/
def lookup (key : List Char) : List Frame → Option Value
  | [] => none
  | f :: rest =>
    match f.find? key with
    | some v => some v
    | none => if f.isClosed then none else lookup key rest

def overlay (upper lower : Fields) : Fields :=
  upper.foldl (fun fs (k, v) => Fields.insert k v fs) lower

/-- All variables of frames over those of `data`, unless a macro hides the data. -/
def visible (data : Fields) (seen : Fields) : List Frame → Fields
  | [] => overlay seen data
  | f :: rest =>
    let seen := overlay ((f.turn.map Turn.vars).getD []) (overlay f.vars seen)
    match f.kind with
    | .definition _ _ => seen
    | _ => visible data seen rest

/-- The frames with a variable set in the nearest one that belongs to no loop. -/
def setOuter (name : String) (v : Value) : List Frame → List Frame
  | [] => []
  | f :: rest =>
    if f.isLoop then f :: setOuter name v rest
    else { f with vars := Fields.insert name v f.vars } :: rest

def setInner (name : String) (v : Value) : List Frame → List Frame
  | [] => []
  | f :: rest => { f with vars := Fields.insert name v f.vars } :: rest

end Frame

end ViewWeave
