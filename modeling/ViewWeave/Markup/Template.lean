import ViewWeave.Data.Sorted
import ViewWeave.Markup.NodeGrammar
import ViewWeave.Markup.Trim
import ViewWeave.Text.Quoted

/-!
# Templates

A template that was read, with its blocks and macros by name. Templates that it builds on must
stand in the library before it.
-/

namespace ViewWeave

inductive TemplateFault
  | malformed
  | outOfRange (literal : String)
  | repeatedBlock (name : String)
  | repeatedMacro (name : String)
  | circular (template parent : String)
  | noParent (template parent : String)
  | noImport (template file : String)
  deriving DecidableEq, Repr

namespace TemplateFault

def message (name : String) : TemplateFault → String
  | .malformed | .outOfRange _ | .repeatedBlock _ | .repeatedMacro _ => s!"Failed to parse '{name}'"
  | .circular t p =>
    s!"Circular extend detected for template '{t}'. Inheritance chain: `[" ++ Text.quoted p ++ "]`"
  | .noParent t p =>
    s!"Template '{t}' is inheriting from '{p}', which doesn't exist or isn't loaded."
  | .noImport t f => s!"Template `{t}` loads macros from `{f}` which isn't present in Tera"

def causes : TemplateFault → List String
  | .outOfRange s => [s!"Integer out of bounds: `{s}`"]
  | .repeatedBlock n => [s!"Block `{n}` is duplicated"]
  | .repeatedMacro n => [s!"Macro `{n}` is duplicated"]
  | _ => []

end TemplateFault

structure Template where
  name : String
  nodes : List Node
  parent : Option String
  /-- All templates below this one, the nearest first. -/
  parents : List String
  /-- The files whose macros it imports, each with the name of its space. -/
  imports : List (String × String)
  /-- The blocks at the top and the blocks in these, by name. -/
  blocks : List (String × List Node)
  macros : List (String × Macro)

mutual

/-- The blocks at the top of nodes and the blocks in these, the outer ones first. -/
def blocksOf : List Node → List (String × List Node)
  | [] => []
  | n :: ns => n.blocks ++ blocksOf ns

def Node.blocks : Node → List (String × List Node)
  | .block _ n body _ => (n, body) :: blocksOf body
  | _ => []

end

def macrosOf (nodes : List Node) : List (String × Macro) :=
  nodes.filterMap fun
    | .define _ n params body _ => some (n, ⟨params, body⟩)
    | _ => none

def importsOf (nodes : List Node) : List (String × String) :=
  nodes.filterMap fun
    | .importing _ file space => some (file, space)
    | _ => none

def parentOf (nodes : List Node) : Option String :=
  (nodes.filterMap fun
    | .extend _ p => some p
    | _ => none).getLast?

def firstRepeated? (seen : List String) : List String → Option String
  | [] => none
  | n :: ns => if seen.contains n then some n else firstRepeated? (n :: seen) ns

abbrev Library := List (String × Template)

def readNodes (source : String) : Except TemplateFault (List Node) := do
  let (nodes, overflow) ← (Markup.readTemplate source.toList).elim (.error .malformed) .ok
  if let some s := overflow then throw (.outOfRange s)
  let nodes := Markup.trimmed nodes
  if let some b := firstRepeated? [] ((blocksOf nodes).map (·.1)) then throw (.repeatedBlock b)
  if let some m := firstRepeated? [] ((macrosOf nodes).map (·.1)) then throw (.repeatedMacro m)
  return nodes

/-- The templates below one that builds on `parent`, the nearest first. -/
def parentsOf (library : Library) (name : String) :
    Option String → Except TemplateFault (List String)
  | none => .ok []
  | some p =>
    if p = name then .error (.circular name p)
    else
      match library.lookup p with
      | some t => .ok (p :: t.parents)
      | none => .error (.noParent name p)

/-- The template of a name and a text, for a library that holds all that it builds on. -/
def Template.ofSource (library : Library) (name source : String) :
    Except TemplateFault Template := do
  let nodes ← readNodes source
  let parent := parentOf nodes
  let parents ← parentsOf library name parent
  let imports := importsOf nodes
  if let some (file, _) := imports.find? fun (f, _) => f != name && (library.lookup f).isNone then
    throw (.noImport name file)
  return ⟨name, nodes, parent, parents, imports, blocksOf nodes, macrosOf nodes⟩

end ViewWeave
