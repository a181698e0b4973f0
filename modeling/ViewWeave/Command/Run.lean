import ViewWeave.Command.Arguments
import ViewWeave.Command.Report
import ViewWeave.Compose.Build
import ViewWeave.Data.Reader
import ViewWeave.Demo.Views
import ViewWeave.Source.Writing
import ViewWeave.View.LayoutFile

/-!
# Running a command

A command reads the files that it is told to, and ends with output, an exit code and perhaps one
file written.
-/

namespace ViewWeave.Command

/-- What a run finds and does not choose: the order of its walks, what renderings ask for, and how
files are written. -/
structure Host where
  order : WalkOrder
  around : Surroundings
  disk : Disk

def Host.plain : Host := ⟨.lastFirst, .bare, .roomy⟩

structure Ending where
  code : Nat
  stdout : List UInt8
  stderr : String
  tree : FileTree

/-- A failure of a command with its causes, outermost first. -/
structure Trouble where
  message : String
  causes : List String

def ViewChoice.describe (c : ViewChoice) : String :=
  match c.views with
  | some dir => s!"'{dir}'"
  | none => "bundled demo views"

def ViewChoice.source (c : ViewChoice) (tree : FileTree) : ViewSource :=
  match c.views with
  | some dir => (DirSource.mk tree (tree.namesOf dir)).toSource
  | none => Demo.views.toSource

/-- What lies behind an error of composition. A text that is no template is reported with its
label. -/
def initCauses : InitError → List String
  | .io _ e => [e.message]
  | .compile name label fault =>
    fault.message name :: fault.causes ++ (if fault = .malformed then [s!" --> {label}"] else [])
  | _ => []

def ViewChoice.trouble (c : ViewChoice) (e : InitError) : Trouble :=
  ⟨s!"failed to compose views from " ++ c.describe, e.message :: initCauses e⟩

def ViewChoice.loadLayout (c : ViewChoice) (tree : FileTree) : Except Trouble ViewLayout :=
  match c.layout with
  | some path => (ViewLayout.load tree path).mapError fun e => ⟨e.message, [e.cause]⟩
  | none => .ok .standard

def ViewChoice.build (c : ViewChoice) (order : WalkOrder) (tree : FileTree) (helpers : Helpers) :
    Except Trouble Registry := do
  let layout ← c.loadLayout tree
  (compose order (c.source tree) layout helpers).run.1.mapError c.trouble

def loadData (tree : FileTree) : Option String → Except Trouble Value
  | none => .ok (.obj [])
  | some path => do
    let text ← (tree.readFile path).mapError fun e =>
      ⟨s!"cannot read data file '{path}'", [e.message]⟩
    (Data.read text).mapError fun e => ⟨s!"data file '{path}' is not valid JSON", [e.message]⟩

def renderTrouble (e : RenderError) : Trouble :=
  ⟨e.message, match e with
    | .notFound _ => []
    | .execution _ f => f.message :: f.causes⟩

def printing (tree : FileTree) (r : Except Trouble String) : Ending :=
  match r with
  | .ok s => ⟨0, Text.utf8 s, "", tree⟩
  | .error t => ⟨1, [], Report.error t.message t.causes, tree⟩

def failing (tree : FileTree) (stdout : List UInt8) (t : Trouble) : Ending :=
  ⟨1, stdout, Report.error t.message t.causes, tree⟩

/-- Renders a template to the standard output or into a file, which is opened only when all went
well. -/
def runRender (host : Host) (tree : FileTree) (helpers : Helpers) (c : ViewChoice) (name : String)
    (data out : Option String) : Ending :=
  let prepared : Except Trouble (Value × Registry) := do
    let data ← loadData tree data
    return (data, ← c.build host.order tree helpers)
  match prepared with
  | .error t => failing tree [] t
  | .ok (data, registry) =>
    match registry.render host.around name data, out with
    | (written, .ok ()), none => ⟨0, written, "", tree⟩
    | (written, .error e), none => failing tree written (renderTrouble e)
    | (_, .error e), some _ => failing tree [] (renderTrouble e)
    | (written, .ok ()), some path =>
      let saving := tree.write host.disk path written
      match saving.ended with
      | .ok () => ⟨0, saving.printed, "", saving.tree⟩
      | .error e => failing saving.tree saving.printed ⟨s!"cannot write '{path}'", [e.message]⟩

def usage : String :=
  "Usage: trellis check [--views DIR] [--layout FILE]\n" ++
  "       trellis list [--views DIR] [--layout FILE] [--json]\n" ++
  "       trellis render NAME [--views DIR] [--layout FILE] [--data FILE] [--out FILE]\n"

def runRequest (host : Host) (tree : FileTree) (helpers : Helpers) : Request → Ending
  | .check c =>
    printing tree ((c.build host.order tree helpers).map fun r => Report.summary r c.describe)
  | .list c json =>
    printing tree ((c.build host.order tree helpers).map
      (if json then Report.dataListing else Report.listing))
  | .render c name data out => runRender host tree helpers c name data out
  | .version => ⟨0, Text.utf8 "trellis 0.1.0\n", "", tree⟩
  | .help => ⟨0, Text.utf8 usage, "", tree⟩

def run (host : Host) (tree : FileTree) (helpers : Helpers) (args : List String) : Ending :=
  match request? args with
  | some request => runRequest host tree helpers request
  | none => ⟨2, [], usage, tree⟩

end ViewWeave.Command
