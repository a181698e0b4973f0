import ViewWeave.Render.Node

/-!
# Outcomes

What a rendering writes, and how it ends. A writer may take only so many bytes; then the rendering
ends at the piece that did not fit.
-/

namespace ViewWeave

/-- A failure of a rendering in words, with what lies behind it, outermost first. -/
structure Failure where
  message : String
  causes : List String
  deriving DecidableEq, Repr

/-- What a rendering writes, calls and puts out, and how it ends. -/
structure Outcome where
  out : Sink
  called : List String
  shown : List Value
  fault : Option (Site × Fault)

namespace Job

/-- How deep nodes and expressions may be nested. -/
def depth (job : Job) (source : String) : Nat := source.length + 4000 + job.template.parents.length

/-- Runs a rendering with nodes and expressions nested at most `n` deep, for a writer that takes so
many bytes, or all. -/
def runInto (job : Job) (room : Option Nat) (n : Nat) : Outcome :=
  match (Evaluator.level job n).body job.root.nodes (job.start room) with
  | (.ok (), st) => ⟨st.out, st.called.reverse, st.shown.reverse, none⟩
  | (.error f, st) => ⟨st.out, st.called.reverse, st.shown.reverse, some (st.site, f)⟩

def runTo (job : Job) (n : Nat) : Outcome := job.runInto none n

def run (job : Job) (room : Option Nat) (source : String) : Outcome :=
  job.runInto room (job.depth source)

def failure (job : Job) (site : Site) (f : Fault) : Failure :=
  ⟨job.tell site, f.message :: f.causes⟩

end Job

namespace Outcome

def bytes (o : Outcome) : List UInt8 := o.out.bytes

def ended (o : Outcome) (job : Job) : Except Failure Unit :=
  match o.fault with
  | some (site, f) => .error (job.failure site f)
  | none => .ok ()

end Outcome

end ViewWeave
