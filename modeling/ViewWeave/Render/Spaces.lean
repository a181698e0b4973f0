import ViewWeave.Markup.Template
import ViewWeave.Render.Fault

/-!
# Spaces of macros

A template sees its own macros in the space `self`, those of each file it imports in a space of
their own, and then the spaces of these files and of the templates below it, unless they are hidden.
-/

namespace ViewWeave

/-- Macros by name, each with the template that it comes from. -/
abbrev MacroTable := List (String × Template × Macro)

abbrev Spaces := List (String × MacroTable)

def Template.macroTable (t : Template) : MacroTable := t.macros.map fun (n, m) => (n, t, m)

/-- The spaces of `more` that `spaces` does not hide are added. -/
def Spaces.extend (spaces more : Spaces) : Spaces :=
  more.foldl
    (fun spaces (space, table) =>
      if (spaces.lookup space).isSome then spaces else spaces ++ [(space, table)])
    spaces

def Spaces.put (spaces : Spaces) (space : String) (table : MacroTable) : Spaces :=
  Sorted.insert space table spaces

/-- The spaces that a template sees, given those that the templates it refers to see. -/
def Template.spaces (t : Template) (library : Library) (seen : Template → Spaces) : Spaces :=
  let own : Spaces := if t.macros.isEmpty then [] else [("self", t.macroTable)]
  let imported := t.imports.foldl
    (fun spaces (file, space) =>
      match library.lookup file with
      | some u => (spaces.put space u.macroTable).extend (seen u)
      | none => spaces)
    own
  t.parents.foldl
    (fun spaces parent =>
      match library.lookup parent with
      | some u => spaces.extend (seen u)
      | none => spaces)
    imported

/-- The spaces that a template sees, where imports lead through at most `n` templates. -/
def Library.spaces (library : Library) : Nat → Template → Spaces
  | 0, _ => []
  | n + 1, t => t.spaces library (spaces library n)

/-- The macro that a template calls by a space and a name, and the template that it comes from. -/
def Library.findMacro (library : Library) (template space name : String) :
    Except Fault (Template × Macro) :=
  let spaces := match library.lookup template with
    | some t => library.spaces (library.length + 1) t
    | none => []
  match spaces.lookup space with
  | none => .error (.noSpace space template)
  | some table =>
    match table.lookup name with
    | some found => .ok found
    | none => .error (.noMacro space name template)

end ViewWeave
