import ViewWeave.View.Fragment

/-!
# View layouts

Where the fragments of a view tree lie, how short names are derived from their paths, and whether
output is escaped.
-/

namespace ViewWeave

structure ViewLayout where
  layoutsRoot : String
  pagesRoot : String
  sharedRoot : String
  /-- The last extension of a fragment's file name, without its dot. -/
  fragmentExtension : String
  /-- The end of every layout and page file name. -/
  nameMarker : String
  autoescape : Bool
  deriving DecidableEq, Repr

namespace ViewLayout

def standard : ViewLayout where
  layoutsRoot := "layouts"
  pagesRoot := "pages"
  sharedRoot := "shared"
  fragmentExtension := "tera"
  nameMarker := ".html.tera"
  autoescape := true

def givenRoot (v : ViewLayout) : Role → String
  | .layout => v.layoutsRoot
  | .page => v.pagesRoot
  | .shared => v.sharedRoot

/-- The root of a role, without slashes at its end. -/
def root (v : ViewLayout) (r : Role) : String :=
  String.ofList (Text.trimEndOf '/' (v.givenRoot r).toList)

/-- `s` without the marker at its end, unless nothing or a directory would remain. -/
def dropMarker? (v : ViewLayout) (s : List Char) : Option String :=
  match Text.dropEnd? v.nameMarker.toList s with
  | none => none
  | some stem =>
    if stem.isEmpty || stem.getLast? == some '/' then none else some (String.ofList stem)

/-- The short name of a layout file: its base name without the marker. -/
def layoutShort? (v : ViewLayout) (path : String) : Option String :=
  v.dropMarker? (baseName path).toList

/-- The path relative to the pages root, or the whole path if it lies elsewhere. -/
def belowPages (v : ViewLayout) (path : String) : List Char :=
  let root := (v.root .page).toList
  if root.isEmpty then path.toList
  else (Text.dropStart? (root ++ ['/']) path.toList).getD path.toList

/-- The short name of a page file: its path below the pages root without the marker. -/
def pageShort? (v : ViewLayout) (path : String) : Option String :=
  v.dropMarker? (v.belowPages path)

end ViewLayout

end ViewWeave
