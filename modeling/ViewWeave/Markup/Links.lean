import ViewWeave.Markup.Node

/-!
# Links between templates

The templates that a template names: the one it builds on, those whose macros it imports, and those
it puts in, of which each tag may offer several.
-/

namespace ViewWeave

mutual

/-- The names of templates in the tags of a node, tag by tag. -/
def Node.links : Node → List (List String)
  | .text _ => []
  | .raw _ _ _ => []
  | .comment _ => []
  | .super => []
  | .extend _ name => [[name]]
  | .importing _ file _ => [[file]]
  | .output _ _ => []
  | .set _ _ _ _ => []
  | .inclusion _ names _ => [names]
  | .block _ _ body _ => linksOfNodes body
  | .loop _ _ _ _ body empty _ => linksOfNodes body ++ linksOfNodes empty
  | .cond branches (some (_, body)) _ => linksOfBranches branches ++ linksOfNodes body
  | .cond branches none _ => linksOfBranches branches
  | .filtered _ _ body _ => linksOfNodes body
  | .define _ _ _ body _ => linksOfNodes body
  | .stop _ => []
  | .next _ => []

def linksOfNodes : List Node → List (List String)
  | [] => []
  | n :: ns => n.links ++ linksOfNodes ns

def linksOfBranches : List Branch → List (List String)
  | [] => []
  | .mk _ _ body :: bs => linksOfNodes body ++ linksOfBranches bs

end

end ViewWeave
