import ViewWeave.Markup.ExprGrammar
import ViewWeave.Markup.Node

/-!
# The grammar of templates

Which tags may stand somewhere depends on what they stand in. A body is read with the rules one
level below those of its tag, so reading ends.
-/

namespace ViewWeave.Markup

open Rule

inductive Area
  | top | block | loop | filtered | definition
  deriving DecidableEq, Repr

/-! ## Edges of tags -/

/-- Reads the start of a tag and tells whether it has a mark. -/
def tagStart : Rule Bool :=
  (do lit "\x7b%-"; return true) <|> (do lit "\x7b%"; return false)

def tagEnd : Rule Bool :=
  (do lit "-%\x7d"; return true) <|> (do lit "%\x7d"; return false)

def outputStart : Rule Bool :=
  (do lit "\x7b\x7b-"; return true) <|> (do lit "\x7b\x7b"; return false)

def outputEnd : Rule Bool :=
  (do lit "-\x7d\x7d"; return true) <|> (do lit "\x7d\x7d"; return false)

def commentStart : Rule Bool :=
  (do lit "\x7b#-"; return true) <|> (do lit "\x7b#"; return false)

def commentEnd : Rule Bool :=
  (do lit "-#\x7d"; return true) <|> (do lit "#\x7d"; return false)

def startsTag : List Char → Bool
  | '\x7b' :: c :: _ => c == '\x7b' || c == '%' || c == '#'
  | _ => false

def dropUntil (stops : List Char → Bool) : List Char → List Char
  | [] => []
  | c :: cs => if stops (c :: cs) then c :: cs else dropUntil stops cs

/-- Reads up to the first place that satisfies `stops`, or to the end. -/
def upToPlace (stops : List Char → Bool) : Rule Unit := fun c =>
  some ((), { c with rest := dropUntil stops c.rest })

def reads {α : Type} (p : Rule α) (s : List Char) : Bool := (p ⟨s, none⟩).isSome

def wordTag (word : String) : Rule Marks := do
  let left ← tagStart
  skip
  lit word
  skip
  return ⟨left, ← tagEnd⟩

def endTag (word : String) : Rule Marks := do
  let left ← tagStart
  skip
  lit word
  skip
  let _ ← opt name
  skip
  return ⟨left, ← tagEnd⟩

/-- Reads a tag that begins with a word and goes on with what `p` reads. -/
def leadTag {α : Type} (word : String) (p : Rule α) : Rule (Marks × α) := do
  let left ← tagStart
  skip
  lit word
  skip1
  let a ← p
  skip
  let right ← tagEnd
  return (⟨left, right⟩, a)

/-! ## Tags without a body -/

def textNode : Rule Node := do
  let s ← matched (do
    (fun c => if startsTag c.rest then none else some ((), c))
    one (fun _ => true)
    upToPlace startsTag)
  return .text s

def commentNode : Rule Node := do
  let left ← commentStart
  (fun c => if reads commentEnd c.rest then none else some ((), c))
  one (fun _ => true)
  upToPlace (reads commentEnd)
  return .comment ⟨left, ← commentEnd⟩

def rawNode : Rule Node := do
  let opening ← wordTag "raw"
  let s ← matched (upToPlace (reads (wordTag "endraw")))
  let closing ← wordTag "endraw"
  return .raw opening s closing

/-- The names of templates to put in, of which the first that exists is taken. -/
def templateNames : Rule (List String) :=
  (do return [← quotedText]) <|> do
    lit "["
    skip
    let ss ← manySpaced (do let s ← quotedText; skip; lit ","; return s)
    skip
    let last ← opt quotedText
    skip
    lit "]"
    return ss ++ last.toList

def inclusionNode : Rule Node := do
  let (m, ns, o) ← leadTag "include" do
    let ns ← templateNames
    skip
    let o ← opt (do lit "ignore"; skip; lit "missing")
    return (ns, o.isSome)
  return .inclusion m ns o

/-- The place of the same block of the template below. -/
def superNode : Rule Node := do
  let _ ← outputStart
  skip
  lit "super()"
  skip
  let _ ← outputEnd
  return .super

section
variable (e : Inner)

def outputNode : Rule Node := do
  let left ← outputStart
  skip
  let x ← e.value
  skip
  return .output ⟨left, ← outputEnd⟩ x

def setNode (word : String) (outer : Bool) : Rule Node := do
  let (m, n, x) ← leadTag word do
    let n ← name
    skip
    lit "="
    skip
    return (n, ← e.value)
  return .set m n x outer

/-! ## Tags with a body -/

def blockNode (body : Rule (List Node)) : Rule Node := do
  let (m, n) ← leadTag "block" name
  let ns ← body
  return .block m n ns (← endTag "endblock")

def filteredNode (body : Rule (List Node)) : Rule Node := do
  let (m, f) ← leadTag "filter" (e.call <|> (do return .mk (← name) []))
  let ns ← body
  return .filtered m f ns (← wordTag "endfilter")

def loopHead : Rule (Option String × String × Expr) := do
  let n ← name
  let m ← opt (do lit ","; skip; name)
  skip1
  lit "in"
  skip1
  let x ← e.filteredSum <|> e.array
  return match m with
    | some m => (some n, m, x)
    | none => (none, n, x)

/-- A loop; of several bodies for the empty case the last one counts. -/
def loopNode (body : Rule (List Node)) : Rule Node := do
  let (m, k, v, x) ← leadTag "for" (loopHead e)
  let ns ← body
  let empties ← many (do let _ ← wordTag "else"; body)
  return .loop m k v x ns (empties.getLast?.getD []) (← wordTag "endfor")

def branch (word : String) (body : Rule (List Node)) : Rule Branch := do
  let (m, c) ← leadTag word e.logic
  return .mk m c (← body)

def condNode (body : Rule (List Node)) : Rule Node := do
  let b ← branch e "if" body
  let bs ← many (branch e "elif" body)
  let otherwise ← opt (do let m ← wordTag "else"; return (m, ← body))
  return .cond (b :: bs) otherwise (← wordTag "endif")

/-- The literal that stands in for a missing argument. -/
def fallback : Rule Expr := do
  let x ← (do return .bool (← truth)) <|> (do return .str (← quotedText)) <|>
    (do return .float (← double)) <|> (do return .int (← whole))
  return .plain x

def param : Rule Param :=
  (do let n ← name; lit "="; return ⟨n, some (← fallback)⟩) <|> (do return ⟨← name, none⟩)

/-- The parameters with one more; it takes the place of one that has its name. -/
def putParam (p : Param) : List Param → List Param
  | [] => [p]
  | q :: qs => if q.name = p.name then p :: qs else q :: putParam p qs

def defineHead : Rule (String × List Param) := do
  let n ← name
  skip
  lit "("
  skip
  let ps ← opt do
    let p ← param
    skip
    let ps ← manySpaced (do lit ","; skip; param)
    return p :: ps
  skip
  lit ")"
  return (n, (ps.getD []).foldl (fun done p => putParam p done) [])

def defineNode (body : Rule (List Node)) : Rule Node := do
  let (m, n, ps) ← leadTag "macro" defineHead
  let ns ← body
  return .define m n ps ns (← endTag "endmacro")

/-! ## Nodes -/

def only {α : Type} (b : Bool) (p : Rule α) : Rule α := if b then p else refuse

/-- A node in an area, whose bodies are read with `inner`. -/
def node (inner : Area → Rule Node) (a : Area) : Rule Node :=
  let body (a : Area) : Rule (List Node) := many (inner a)
  inclusionNode <|> only (a == .block) superNode <|> outputNode e <|> commentNode <|>
  setNode e "set" false <|> setNode e "set_global" true <|>
  only (a == .top || a == .block || a == .filtered) (blockNode (body .block)) <|>
  condNode e (body a) <|> loopNode e (body .loop) <|>
  only (a == .loop) (do return .stop (← wordTag "break")) <|>
  only (a == .loop) (do return .next (← wordTag "continue")) <|>
  filteredNode e (body .filtered) <|> rawNode <|> textNode

def nodeAt : Nat → Area → Rule Node
  | 0, _ => refuse
  | n + 1, a => node e (nodeAt n) a

/-! ## Templates -/

def extendNode : Rule Node := do
  skip
  let (m, s) ← leadTag "extends" quotedText
  skip
  return .extend m s

def importNode : Rule Node := do
  skip
  let (m, f, s) ← leadTag "import" do
    let f ← quotedText
    skip1
    lit "as"
    skip1
    return (f, ← name)
  skip
  return .importing m f s

def head : Rule (List Node) :=
  (do let x ← extendNode; return x :: (← many importNode)) <|>
  (do let x ← importNode
      let xs ← many importNode
      let y ← opt extendNode
      return x :: xs ++ y.toList)

/-- A whole template with bodies nested at most `n` deep; comments before its head are dropped. -/
def template (n : Nat) : Rule (List Node) := do
  let _ ← many commentNode
  let hs ← opt head
  let ns ← many (nodeAt e n .top <|> defineNode (many (nodeAt e n .definition)))
  atEnd
  return hs.getD [] ++ ns

end

/-- The number of opening braces, which no nesting of bodies exceeds. -/
def bracesIn (s : List Char) : Nat := s.countP (· == '\x7b')

def readTemplate (s : List Char) : Option (List Node × Option String) :=
  (template (.level (bracketsAhead ⟨s, none⟩ + 1)) (bracesIn s + 1) ⟨s, none⟩).map
    fun (ns, c) => (ns, c.overflow)

end ViewWeave.Markup
