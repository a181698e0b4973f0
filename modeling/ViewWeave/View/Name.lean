import ViewWeave.Text.Affix

/-!
# Template names

A composed template is named by the short names of its layout and its page with a colon between
them. The name is read back at its first colon.
-/

namespace ViewWeave

structure TemplateName where
  text : String
  deriving DecidableEq, Repr

namespace TemplateName

def ofParts (layout page : String) : TemplateName :=
  ⟨String.ofList (layout.toList ++ ':' :: page.toList)⟩

/-- The layout half: what stands before the first colon, or the whole name if there is none. -/
def layout (n : TemplateName) : String :=
  match Text.splitOnce? ':' n.text.toList with
  | some (l, _) => String.ofList l
  | none => n.text

/-- The page half: what stands after the first colon, empty if there is none. -/
def page (n : TemplateName) : String :=
  match Text.splitOnce? ':' n.text.toList with
  | some (_, p) => String.ofList p
  | none => ""

end TemplateName

end ViewWeave
