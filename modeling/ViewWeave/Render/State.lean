import ViewWeave.Data.Writer
import ViewWeave.Helper.Builtin
import ViewWeave.Render.Frame
import ViewWeave.Render.Path
import ViewWeave.Render.Surroundings
import ViewWeave.Text.Utf8

/-!
# The state of a rendering

A rendering walks through a template with a state. What it writes goes piece by piece into a sink,
which may refuse a piece; that ends the rendering like any other failure.
-/

namespace ViewWeave

/-- The templates, helpers and choices that all renderings share. -/
structure Engine where
  library : Library
  /-- The helper that was registered with a name. -/
  helper? : String → Option Helper
  /-- The ends of the names of the templates whose output is escaped. -/
  escaped : List String

def Engine.escapes (e : Engine) (name : String) : Bool :=
  e.escaped.any fun ending => (Text.dropEnd? ending.toList name.toList).isSome

structure Job where
  engine : Engine
  around : Surroundings
  template : Template
  data : Fields

structure BlockMark where
  name : String
  /-- The template that the body comes from. -/
  template : String
  /-- How far below the rendered template that one lies. -/
  level : Nat

/-- Where a rendering is, as far as a failure tells it. -/
structure Site where
  definition : Option (String × String)
  block : Option BlockMark

structure Sink where
  /-- The pieces that were taken, the last one first. -/
  pieces : List String
  room : Option Nat
  /-- What was taken of a piece that was refused. -/
  torn : List UInt8

structure State where
  /-- The innermost frame is the first. -/
  frames : List Frame
  blocks : List BlockMark
  escaping : Bool
  out : Sink
  /-- The functions that were called so far, the last one first. -/
  called : List String
  /-- The values that output tags put out so far, the last one first. -/
  shown : List Value

/-- A step of a rendering. What it did before it failed stays. -/
abbrev Eval (α : Type) : Type := ExceptT Fault (StateM State) α

/-! ## Sinks -/

namespace Sink

def ofRoom (room : Option Nat) : Sink := ⟨[], room, []⟩

def text (k : Sink) : String := String.join k.pieces.reverse

def bytes (k : Sink) : List UInt8 := k.pieces.reverse.flatMap Text.utf8 ++ k.torn

/-- The sink after a piece, of which it takes what fits, and whether all of it did. -/
def write (k : Sink) (s : String) : Sink × Bool :=
  match k.room with
  | none => ({ k with pieces := s :: k.pieces }, true)
  | some n =>
    let bs := Text.utf8 s
    if bs.length ≤ n then ({ k with pieces := s :: k.pieces, room := some (n - bs.length) }, true)
    else ({ k with room := some 0, torn := k.torn ++ bs.take n }, false)

end Sink

/-! ## Sites -/

def State.site (st : State) : Site where
  definition := match st.frames.head?.map Frame.kind with
    | some (.definition space name) => some (space, name)
    | _ => none
  block := st.blocks.head?

namespace Job

def template? (job : Job) (name : String) : Option Template := job.engine.library.lookup name

/-- The function that a template calls by a name after so many other calls: a registered helper, or
one that is always bound. -/
def function? (job : Job) (moment : Nat) (name : String) : Option Helper :=
  (job.engine.helper? name).or (Builtin.get? (job.around.answer · moment) name)

def filter? (job : Job) (name : String) : Option Filter :=
  (ViewWeave.filter? name).or (job.around.filter? name)

def test? (job : Job) (name : String) : Option Test :=
  (ViewWeave.test? name).or (job.around.test? name)

def writersOf (job : Job) (block : String) : List String :=
  let has (name : String) := (job.template? name).any fun t => (t.blocks.lookup block).isSome
  if (job.template.blocks.lookup block).isSome then
    job.template.name :: job.template.parents.filter has
  else []

def tell (job : Job) (site : Site) : String :=
  let start := s!"Failed to render '" ++ job.template.name ++ "'"
  let start := match site.definition with
    | some (space, name) => start ++ s!": error while rendering macro `{space}::{name}`"
    | none => start
  match site.block with
  | some mark =>
    match (job.writersOf mark.name)[mark.level]? with
    | some t => if t = job.template.name then start else start ++ s!" (error happened in '{t}')."
    | none => start ++ " (error happened in a parent template)"
  | none =>
    match job.template.parents.getLast? with
    | some t => start ++ s!" (error happened in '{t}')."
    | none => start

/-- The template whose nodes are walked through: the lowest one that the rendered one builds on. -/
def root (job : Job) : Template :=
  (job.template.parents.getLast?.bind job.template?).getD job.template

def start (job : Job) (room : Option Nat) : State where
  frames := [⟨.origin, job.template, [], none⟩]
  blocks := []
  escaping := job.engine.escapes job.template.name
  out := .ofRoom room
  called := []
  shown := []

end Job

/-! ## Steps -/

namespace Eval

def write (s : String) : Eval Unit := fun st =>
  let (out, taken) := st.out.write s
  (if taken then .ok () else .error .refused, { st with out })

def putOut (v : Value) : Eval Unit := do
  modify fun st => { st with shown := v :: st.shown }
  write v.displayText

/-- Notes a call, and gives the number of calls before it. -/
def note (function : String) : Eval Nat := fun st =>
  (.ok st.called.length, { st with called := function :: st.called })

/-- Runs a step with its output kept back, and gives the output as a text. -/
def capture (m : Eval Unit) : Eval String := fun st =>
  match m { st with out := .ofRoom none } with
  | (.ok (), st') => (.ok st'.out.text, { st' with out := st.out })
  | (.error f, st') => (.error f, { st' with out := st.out })

def verbatim {α : Type} (m : Eval α) : Eval α := fun st =>
  let (r, st') := m { st with escaping := false }
  (r, { st' with escaping := st.escaping })

/-- Runs a step and gives its failure, if it fails. -/
def attempt {α : Type} (m : Eval α) : Eval (Except Fault α) := fun st =>
  let (r, st') := m st
  (.ok r, st')

/-- Runs a step whose failure is told as the cause of another one. -/
def wrapping {α : Type} (wrap : Fault → Fault) (m : Eval α) : Eval α := fun st =>
  let (r, st') := m st
  (r.mapError wrap, st')

def ofExcept {α : Type} (r : Except Fault α) : Eval α := fun st => (r, st)

def push (f : Frame) : Eval Unit := modify fun st => { st with frames := f :: st.frames }

def pop : Eval Unit := modify fun st => { st with frames := st.frames.tail }

def onFrame (f : Frame → Frame) : Eval Unit :=
  modify fun st => match st.frames with
    | [] => st
    | g :: rest => { st with frames := f g :: rest }

end Eval

namespace Job

def active (job : Job) (st : State) : Template :=
  (st.frames.head?.map (·.template)).getD job.template

/-- The name that stands for all visible variables. -/
def everything : String := "__tera_context"

def lookup (job : Job) (st : State) (path : String) : Except Fault Value :=
  if path = everything then
    .ok (.str (Value.obj (Frame.visible job.data [] st.frames)).indentedText)
  else
    let find (key : List Char) := (Frame.lookup key st.frames).or (job.data.find? key)
    Path.resolve find (job.active st).name (path.length + 1) path.toList

def look (job : Job) (path : String) : Eval Value := do
  Eval.ofExcept (job.lookup (← get) path)

def assign (name : String) (v : Value) (outer : Bool) : Eval Unit :=
  modify fun st =>
    { st with frames := if outer then Frame.setOuter name v st.frames
                        else Frame.setInner name v st.frames }

end Job

end ViewWeave
