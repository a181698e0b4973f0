import ViewWeave.Compose.Registry
import ViewWeave.Compose.Scan
import ViewWeave.Markup.Walk
import ViewWeave.View.Layout

/-!
# Composition

Every layout is paired with every page. The text of a pair is that of the layout, the page and all
shared fragments, one after the other. One fault anywhere, and there is no registry.
-/

namespace ViewWeave

structure NamedFragment where
  short : String
  fragment : Fragment
  deriving DecidableEq, Repr

/-! ## Fragments -/

/-- The short name of a file in a role; shared files have none. -/
def ViewLayout.short? (v : ViewLayout) (role : Role) (path : String) : Option String :=
  match role with
  | .layout => v.layoutShort? path
  | .page => v.pageShort? path
  | .shared => none

def ViewLayout.named (v : ViewLayout) (role : Role) (paths : List String) :
    Except InitError (List (String × String)) :=
  paths.mapM fun path =>
    match v.short? role path with
    | some short => .ok (short, path)
    | none => .error (.missingMarker path role)

def ViewSource.content (source : ViewSource) (path : String) : Except InitError String :=
  (source.read path).mapError (.io path)

/-- The fragments of a role with their short names; no file is read before all have a name. -/
def namedFragments (source : ViewSource) (v : ViewLayout) (role : Role) (paths : List String) :
    Except InitError (List NamedFragment) := do
  let named ← v.named role paths
  named.mapM fun (short, path) => do
    return ⟨short, ⟨path, role, ← source.content path⟩⟩

/-! ## Pairs -/

def pairUp (shared : String) (l p : NamedFragment) : ComposedTemplate where
  name := .ofParts l.short p.short
  source := l.fragment.content ++ p.fragment.content ++ shared
  label := p.fragment.baseName
  layoutPath := l.fragment.path
  pagePath := p.fragment.path

/-- All pairs, layout by layout. -/
def pairs (shared : String) (ls ps : List NamedFragment) : List ComposedTemplate :=
  ls.flatMap fun l => ps.map (pairUp shared l)

def compileOne (order : WalkOrder) (helpers : Helpers) (library : Library) (t : ComposedTemplate) :
    Except InitError Template := do
  let name := t.name.text
  let template ← (Template.ofSource library name t.source).mapError (.compile name t.label)
  match firstUnbound? order helpers.isBound name template.nodes with
  | some f => .error (.unboundFunction name f)
  | none => .ok template

structure Composed where
  templates : List (String × ComposedTemplate)
  library : Library

/-- The template of a pair whose name is new. -/
def Composed.compile (order : WalkOrder) (helpers : Helpers) (c : Composed)
    (t : ComposedTemplate) : Except InitError Template :=
  match c.templates.lookup t.name.text with
  | some first => .error (.duplicateName t.name.text first.origin t.origin)
  | none => compileOne order helpers c.library t

def Composed.insert (c : Composed) (t : ComposedTemplate) (template : Template) : Composed :=
  ⟨Sorted.insert t.name.text t c.templates, Sorted.insert t.name.text template c.library⟩

def Composed.add (order : WalkOrder) (helpers : Helpers) (c : Composed) (t : ComposedTemplate) :
    Build Composed := do
  let template ← Build.ofExcept (c.compile order helpers t)
  Build.log (.composed t.name.text t.bytes)
  return c.insert t template

/-! ## Registries -/

def Helpers.invalidName? (helpers : Helpers) : Option String :=
  helpers.names.find? fun n => !isHelperName n

def Helpers.check (helpers : Helpers) : Except InitError Unit :=
  match helpers.invalidName? with
  | some name => .error (.invalidHelperName name)
  | none => .ok ()

/-- The ends of the names of the templates whose output is escaped; every name ends in nothing. -/
def ViewLayout.escaped (v : ViewLayout) : List String := if v.autoescape then [""] else []

def compose (order : WalkOrder) (source : ViewSource) (v : ViewLayout) (helpers : Helpers) :
    Build Registry := do
  let scanRole (role : Role) := scan source (v.root role) role v.fragmentExtension
  let layoutPaths ← scanRole .layout
  let pagePaths ← scanRole .page
  let sharedPaths ← scanRole .shared
  let layouts ← Build.ofExcept (namedFragments source v .layout layoutPaths)
  let pages ← Build.ofExcept (namedFragments source v .page pagePaths)
  let shared ← Build.ofExcept (sharedPaths.mapM source.content)
  -- the names of helpers come after all files, and before the first text is read as a template
  Build.ofExcept helpers.check
  let done ← (pairs (String.join shared) layouts pages).foldlM (Composed.add order helpers)
    ⟨[], []⟩
  Build.log (.ready layouts.length pages.length sharedPaths.length done.templates.length)
  return ⟨done.templates, ⟨done.library, helpers.get?, v.escaped⟩⟩

end ViewWeave
