import ViewWeave.Markup.Node
import ViewWeave.Text.Blank

/-!
# White space around tags

A mark at a tag's edge removes the white space of the text next to it. Bodies are trimmed by the
marks of the tags around them.
-/

namespace ViewWeave.Markup

/-- `nodes` without the white space at the end of a last text; a text of which nothing remains is
dropped. The list is reversed. -/
def trimLast : List Node → List Node
  | .text s :: rest =>
    let s' := Text.trimEnd s.toList
    if s'.isEmpty then rest else .text (String.ofList s') :: rest
  | nodes => nodes

def trimBodyEnd (nodes : List Node) : List Node := (trimLast nodes.reverse).reverse

structure TrimState where
  /-- The nodes so far, the last one first. -/
  done : List Node
  /-- Whether the last node met was a text. -/
  afterText : Bool
  /-- Whether the next text loses the white space at its start. -/
  trimNext : Bool

namespace TrimState

/-- The state at the start of a body, whose first text loses the white space at its start if
`left`. -/
def opened (left : Bool) : TrimState := ⟨[], false, left⟩

def tag (st : TrimState) (left right : Bool) (n : Node) : TrimState :=
  ⟨n :: (if st.afterText && left then trimLast st.done else st.done), false, right⟩

def text (st : TrimState) (s : String) : TrimState :=
  if st.trimNext then
    let s' := Text.trimStart s.toList
    ⟨if s'.isEmpty then st.done else .text (String.ofList s') :: st.done, true, false⟩
  else ⟨.text s :: st.done, true, false⟩

/-- The nodes at the end of a body, of whose last text the white space is removed if `right`. -/
def close (st : TrimState) (right : Bool) : List Node :=
  ((if right then trimLast st.done else st.done)).reverse

end TrimState

def trimRaw (opening closing : Marks) (s : String) : String :=
  let cs := s.toList
  let cs := if opening.right then Text.trimStart cs else cs
  String.ofList (if closing.left then Text.trimEnd cs else cs)

/-- The bodies of branches, each cut at its end by the mark that begins what follows it. -/
def trimEnds (last : Bool) : List Branch → List Branch
  | [] => []
  | b :: rest =>
    let cut := match rest with
      | [] => last
      | c :: _ => c.marks.left
    (if cut then b.mapBody trimBodyEnd else b) :: trimEnds last rest

/-- Whether a conditional's first tag asks for removal before it. -/
def leadsTrim : List Branch → Bool
  | [] => false
  | b :: _ => b.marks.left

mutual

def trimNodes (st : TrimState) : List Node → TrimState
  | [] => st
  | n :: rest => trimNodes (trimNode st n) rest

def trimNode (st : TrimState) : Node → TrimState
  | .text s => st.text s
  | .raw o s c => st.tag o.left c.right (.raw o (trimRaw o c s) c)
  | .comment m => st.tag m.left m.right (.comment m)
  | .super => ⟨.super :: st.done, false, st.trimNext⟩
  | .extend m n => st.tag m.left m.right (.extend m n)
  | .importing m f s => st.tag m.left m.right (.importing m f s)
  | .output m e => st.tag m.left m.right (.output m e)
  | .set m n e g => st.tag m.left m.right (.set m n e g)
  | .inclusion m ns o => st.tag m.left m.right (.inclusion m ns o)
  | .block o n body c =>
    st.tag o.left c.right (.block o n ((trimNodes (.opened o.right) body).close c.left) c)
  | .loop o k v e body empty c =>
    st.tag o.left c.right (.loop o k v e ((trimNodes (.opened o.right) body).close c.left) empty c)
  | .cond branches (some (m, body)) c =>
    st.tag (leadsTrim branches) c.right
      (.cond (trimEnds m.left (trimBranches branches))
        (some (m, (trimNodes (.opened m.right) body).close c.left)) c)
  | .cond branches none c =>
    st.tag (leadsTrim branches) c.right (.cond (trimEnds c.left (trimBranches branches)) none c)
  | .filtered o f body c =>
    st.tag o.left c.right (.filtered o f ((trimNodes (.opened o.right) body).close c.left) c)
  | .define o n ps body c =>
    st.tag o.left c.right (.define o n ps ((trimNodes (.opened o.right) body).close c.left) c)
  | .stop m => st.tag m.left m.right (.stop m)
  | .next m => st.tag m.left m.right (.next m)

def trimBranches : List Branch → List Branch
  | [] => []
  | .mk m c body :: rest =>
    .mk m c ((trimNodes (.opened m.right) body).close false) :: trimBranches rest

end

def trimmed (nodes : List Node) : List Node := (trimNodes (.opened false) nodes).close false

end ViewWeave.Markup
