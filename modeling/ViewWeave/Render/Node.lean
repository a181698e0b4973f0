import ViewWeave.Render.Expr
import ViewWeave.Text.Grapheme

/-!
# Walking through nodes

The steps for one level of nodes, given the steps for what is inside them, and the steps for any
number of levels.
-/

namespace ViewWeave

namespace Evaluator

variable (job : Job) (ev : Evaluator)

/-! ## Loops -/

def loopItems (key : Option String) (name : String) (v : Value) :
    Except Fault (List (String × Value)) :=
  match v, key with
  | .arr items, none => .ok (items.map fun v => ("", v))
  | .str s, none => .ok ((Text.clusters s.toList).map fun w => ("", .str (String.ofList w)))
  | .obj fields, some _ => .ok fields
  | .arr _, some _ | .str _, some _ => .error (.overArray name)
  | .obj _, none => .error (.overObject name)
  | _, _ => .error (.overOther name)

/-- What messages call the container of a loop. -/
def containerName : Operand → Except Fault String
  | .path p => .ok p
  | .call c => .ok c.name
  | .array _ => .ok "an array literal"
  | o => .error (.badContainer o)

def enterTurn (t : Turn) (f : Frame) : Frame :=
  { f with vars := [], turn := f.turn.map fun _ => t }

def signal (st : State) : Signal :=
  match st.frames.head?.bind Frame.turn with
  | some t => t.signal
  | none => .none

def turns (key : Option String) (value : String) (body : List Node) (index : Nat) :
    List (String × Value) → Eval Unit
  | [] => return
  | (k, v) :: rest => do
    Eval.onFrame (enterTurn ⟨value, key, v, k, index, rest.isEmpty, .none⟩)
    ev.body body
    if signal (← get) = .stop then return
    else turns key value body (index + 1) rest

def loop (key : Option String) (value : String) (container : Expr) (body empty : List Node) :
    Eval Unit := do
  let name ← Eval.ofExcept (containerName container.operand)
  let items ← Eval.ofExcept (loopItems key name (← ev.plain container))
  match items with
  | [] => ev.body empty
  | (k, v) :: _ =>
    let first : Turn := ⟨value, key, v, k, 0, false, .none⟩
    Eval.push ⟨.loop, job.active (← get), [], some first⟩
    ev.turns key value body 0 items
    Eval.pop

def tellLoop (s : Signal) (word : String) : Eval Unit := do
  match (← get).frames.head?.bind Frame.turn with
  | some _ => Eval.onFrame fun f => { f with turn := f.turn.map fun t => { t with signal := s } }
  | none => throw (.notInLoop word)

/-! ## Blocks -/

/-- The body of a block as the first of some templates writes it, with its place among them. -/
def blockBody? (job : Job) (name : String) (level : Nat) :
    List String → Option (BlockMark × List Node)
  | [] => none
  | t :: ts =>
    match (job.template? t).bind (·.blocks.lookup name) with
    | some body => some (⟨name, t, level⟩, body)
    | none => blockBody? job name (level + 1) ts

/-- Walks through a block as the highest template writes it. -/
def block (name : String) (body : List Node) : Eval Unit := do
  let t := job.active (← get)
  let found : Option (BlockMark × List Node) := match t.blocks.lookup name with
    | some body => some (⟨name, t.name, 0⟩, body)
    | none => blockBody? job name 1 t.parents
  match found with
  | some (mark, body) =>
    modify fun st => { st with blocks := mark :: st.blocks }
    ev.body body
  | none => ev.body body

/-- Walks through the innermost block as the next lower template writes it. -/
def lowerBlock : Eval Unit := do
  let some mark := (← get).blocks.head? | throw .noLowerBlock
  let parents := job.template.parents
  match blockBody? job mark.name (mark.level + 1) (parents.drop mark.level) with
  | none => throw .noLowerBlock
  | some (lower, body) =>
    modify fun st => { st with blocks := lower :: st.blocks }
    ev.body body
    -- from the lowest template the mark of the block above it goes, too
    let done := if lower.level ≥ parents.length then 2 else 1
    modify fun st => { st with blocks := st.blocks.drop done }

/-! ## Nodes -/

def branches (otherwise : List Node) : List Branch → Eval Unit
  | [] => ev.body otherwise
  | b :: bs => do
    if ← ev.truth b.condition then ev.body b.body
    else branches otherwise bs

def node : Node → Eval Unit
  | .text s => Eval.write s
  | .raw _ s _ => Eval.write s
  | .comment _ => return
  | .super => ev.lowerBlock job
  | .extend _ name => throw (.lowerTemplate name)
  | .importing _ _ _ => return
  | .output _ e => do Eval.putOut (← ev.value e)
  | .set _ name e outer => do
    let v ← ev.plain e
    Job.assign name v outer
  | .inclusion _ names optional => do
    match names.findSome? job.template? with
    | some t =>
      Eval.push ⟨.inclusion, t, [], none⟩
      ev.body t.nodes
      Eval.pop
    | none => if optional then return else throw (.noTemplate names)
  | .block _ name body _ => ev.block job name body
  | .loop _ key value container body empty _ => ev.loop job key value container body empty
  | .cond bs otherwise _ => ev.branches ((otherwise.map (·.2)).getD []) bs
  | .filtered _ f body _ => do
    let s ← Eval.capture (ev.body body)
    if f.name = "safe" then Eval.write s
    else Eval.write (← ev.filter job (.str s) f).displayText
  | .define _ _ _ _ _ => return
  | .stop _ => tellLoop .stop "break"
  | .next _ => tellLoop .next "continue"

/-- Walks through nodes until the loop they are in is told something. -/
def nodes : List Node → Eval Unit
  | [] => return
  | n :: ns => do
    ev.node job n
    if signal (← get) = .none then nodes ns else return

def next : Evaluator := ⟨ev.nodes job, ev.exprValue job, ev.exprTruth job, ev.operandNumber job⟩

/-- The steps where nothing may be nested. -/
def none : Evaluator :=
  ⟨fun _ => throw .tooDeep, fun _ => throw .tooDeep, fun _ => throw .tooDeep,
    fun _ => throw .tooDeep⟩

def level (job : Job) : Nat → Evaluator
  | 0 => none
  | n + 1 => (level job n).next job

end Evaluator

end ViewWeave
