import ViewWeave.Yaml.Scalar

/-!
# From text to tokens

The scanner walks over the text once. A scalar may turn out to be a key only when its colon is
found, so tokens wait in a queue until no key can be put before them. Nested blocks are told by
indentation.
-/

namespace ViewWeave.Yaml

structure KeyStart where
  /-- Number of the token that would be the key. -/
  number : Nat
  place : Place
  /-- Whether only a key can stand there. -/
  required : Bool
  deriving DecidableEq, Repr

/-- Whether a key that began at `k` can no longer end at `p`: it stays on its line and is short. -/
def KeyStart.isStale (k : KeyStart) (p : Place) : Bool :=
  k.place.line < p.line || k.place.index + 1024 < p.index

structure Scanner where
  input : Input
  /-- Tokens that may still get a key before them. -/
  queue : List Token
  handed : Nat
  /-- Column of the block at hand, -1 outside of all blocks. -/
  indent : Int
  outer : List Int
  /-- For each open flow collection, and the block around them all, where a key may have begun. -/
  keys : List (Option KeyStart)
  keyAllowed : Bool
  ended : Bool
  deriving Repr

namespace Scanner

def start (s : List Char) : Scanner where
  input := ⟨s, ⟨0, 0, 0⟩⟩
  queue := []
  handed := 0
  indent := -1
  outer := []
  keys := [none]
  keyAllowed := true
  ended := false

def inFlow (s : Scanner) : Bool := s.keys.length > 1

def place (s : Scanner) : Place := s.input.place

def push (s : Scanner) (k : Kind) (start stop : Place) : Scanner :=
  { s with queue := s.queue ++ [⟨k, start, stop⟩] }

def insertBefore (s : Scanner) (number : Nat) (t : Token) : Scanner :=
  let n := number - s.handed
  { s with queue := s.queue.take n ++ t :: s.queue.drop n }

def pushMany (s : Scanner) (k : Kind) (n : Nat) : Scanner :=
  let after := s.input.skipMany n
  { s.push k s.place after.place with input := after }

/-! ## Keys and indentation -/

/-- Gives up the key that may have begun here; one that was required is a fault. -/
def dropKey (s : Scanner) : Option Scanner :=
  match s.keys with
  | some k :: rest => if k.required then none else some { s with keys := none :: rest }
  | _ => some s

def saveKey (s : Scanner) : Option Scanner :=
  if !s.keyAllowed then some s
  else do
    let s ← s.dropKey
    -- at the column of its block nothing but a key can begin
    let required := !s.inFlow && s.indent == s.place.column
    let k : KeyStart := ⟨s.handed + s.queue.length, s.place, required⟩
    return { s with keys := some k :: s.keys.drop 1 }

def dropStale (s : Scanner) : Option Scanner := do
  let keys ← s.keys.mapM fun k? =>
    match k? with
    | some k =>
      if !k.isStale s.place then some (some k) else if k.required then none else some none
    | none => some none
  return { s with keys }

/-- Opens a block at a column, if it is deeper than the block at hand; its token goes before token
`before`, or to the end. -/
def openBlock (s : Scanner) (column : Nat) (before : Option Nat) (k : Kind) (p : Place) : Scanner :=
  if s.inFlow || s.indent ≥ column then s
  else
    let s := { s with outer := s.indent :: s.outer, indent := column }
    match before with
    | some n => s.insertBefore n ⟨k, p, p⟩
    | none => s.push k p p

def closeBlocksFrom (column : Int) : List Int → Scanner → Scanner
  | [], s => s
  | i :: rest, s =>
    if s.indent > column then
      closeBlocksFrom column rest
        { s.push .blockEnd s.place s.place with indent := i, outer := rest }
    else s

/-- Closes the blocks deeper than a column; flow collections know no indentation. -/
def closeBlocks (s : Scanner) (column : Int) : Scanner :=
  if s.inFlow then s else closeBlocksFrom column s.outer s

/-! ## Single tokens -/

/-- Passes blanks, comments and line breaks; after a break a key may begin again. -/
def skipBlank : Nat → Scanner → Scanner
  | 0, s => s
  | fuel + 1, s =>
    -- a tab does not indent, so none may stand before what could be a key of a block
    let tabs := s.inFlow || !s.keyAllowed
    let (_, input) := s.input.skipWhile fun c => c == ' ' || (tabs && c == '\t')
    let input := if input.rest.head? == some '#' then
      (input.skipWhile fun c => !(isBreak c || c == '\x00')).2 else input
    if input.rest.head?.any isBreak then
      let (_, input) := input.breakLine
      skipBlank fuel { s with input, keyAllowed := s.keyAllowed || !s.inFlow }
    else { s with input }

def scanEnd (s : Scanner) : Option Scanner := do
  let p := s.place
  -- a last line without a line break ends like any other
  let p := if p.column == 0 then p else ⟨p.index, p.line + 1, 0⟩
  let s := { s with input := { s.input with place := p } }
  let s ← (s.closeBlocks (-1)).dropKey
  return { s.push .streamEnd s.place s.place with keyAllowed := false, ended := true }

def scanMark (s : Scanner) (k : Kind) : Option Scanner := do
  let s ← (s.closeBlocks (-1)).dropKey
  return { s.pushMany k 3 with keyAllowed := false }

def versionNumber (s : Input) : Option (Nat × Input) :=
  let (ds, s) := s.skipWhile Char.isDigit
  if ds.isEmpty || ds.length > 9 then none
  else some (ds.foldl (fun n d => n * 10 + (d.toNat - 48)) 0, s)

/-- Reads a tag handle: names between exclamation marks; a directive needs both marks. -/
def tagHandle (directive : Bool) (s : Input) : Option (List Char × Input) :=
  match s.rest with
  | '!' :: _ =>
    let (name, s) := s.skip.skipWhile isNameChar
    match s.rest with
    | '!' :: _ => some ('!' :: (name ++ ['!']), s.skip)
    | _ => if directive && !name.isEmpty then none else some ('!' :: name, s)
  | _ => none

def isTagChar (whole : Bool) (c : Char) : Bool :=
  isNameChar c || ";/?:@&=+$.!~*'()%".toList.contains c ||
    (whole && (c == ',' || c == '[' || c == ']'))

def scanDirective (s : Scanner) : Option Scanner := do
  let s ← (s.closeBlocks (-1)).dropKey
  let first := s.place
  let (name, input) := s.input.skip.skipWhile isNameChar
  if name.isEmpty || !atGap input.rest then none
  else
    let (_, input) := input.skipWhile isGap
    let (k, input) ← (
      if name = "YAML".toList then do
        let (major, input) ← versionNumber input
        if input.rest.head? != some '.' then none
        else
          let (minor, input) ← versionNumber input.skip
          return (Kind.version major minor, input)
      else if name = "TAG".toList then do
        let (handle, input) ← tagHandle true input
        if !(input.rest.head?.any isGap) then none
        else
          let (_, input) := input.skipWhile isGap
          let (start, input) := input.skipWhile (isTagChar true)
          if start.isEmpty || !atGap input.rest then none
          else return (Kind.tagDirective handle start, input)
      else none)
    let stop := input.place
    let (_, input) := input.skipWhile isGap
    let input := if input.rest.head? == some '#' then
      (input.skipWhile fun c => !(isBreak c || c == '\x00')).2 else input
    if !atLineEnd input.rest then none
    else return { s.push k first stop with input := input.breakLine.2, keyAllowed := false }

def scanFlowStart (s : Scanner) (k : Kind) : Option Scanner := do
  let s ← s.saveKey
  return { (s.pushMany k 1) with keys := none :: s.keys, keyAllowed := true }

def scanFlowEnd (s : Scanner) (k : Kind) : Option Scanner := do
  let s ← s.dropKey
  return { (s.pushMany k 1) with
    keys := if s.inFlow then s.keys.drop 1 else s.keys, keyAllowed := false }

def scanFlowEntry (s : Scanner) : Option Scanner := do
  let s ← s.dropKey
  return { s.pushMany .flowEntry 1 with keyAllowed := true }

def scanBlockEntry (s : Scanner) : Option Scanner := do
  if !s.inFlow && !s.keyAllowed then none
  else
    let s ← (s.openBlock s.place.column none .blockSequenceStart s.place).dropKey
    return { s.pushMany .blockEntry 1 with keyAllowed := true }

def scanKey (s : Scanner) : Option Scanner := do
  if !s.inFlow && !s.keyAllowed then none
  else
    let s ← (s.openBlock s.place.column none .blockMappingStart s.place).dropKey
    return { s.pushMany .key 1 with keyAllowed := !s.inFlow }

/-- The colon before a value. It makes a key of what may have been one. -/
def scanValue (s : Scanner) : Option Scanner :=
  match s.keys with
  | some k :: rest =>
    let s := s.insertBefore k.number ⟨.key, k.place, k.place⟩
    let s := s.openBlock k.place.column (some k.number) .blockMappingStart k.place
    some { s.pushMany .value 1 with keys := none :: rest, keyAllowed := false }
  | _ =>
    if !s.inFlow && !s.keyAllowed then none
    else
      let s := s.openBlock s.place.column none .blockMappingStart s.place
      some { s.pushMany .value 1 with keyAllowed := !s.inFlow }

def scanAnchor (s : Scanner) (k : List Char → Kind) : Option Scanner := do
  let s ← s.saveKey
  let (name, input) := s.input.skip.skipWhile isNameChar
  let ends := atGap input.rest || input.rest.head?.any ("?:,]\x7d%@`".toList.contains ·)
  if name.isEmpty || !ends then none
  else return { s.push (k name) s.place input.place with input, keyAllowed := false }

def scanTag (s : Scanner) : Option Scanner := do
  let s ← s.saveKey
  let (handle, rest, input) ← (
    match s.input.rest with
    | '!' :: '<' :: _ =>
      let (uri, input) := (s.input.skipMany 2).skipWhile (isTagChar true)
      if uri.isEmpty || input.rest.head? != some '>' then none else some ([], uri, input.skip)
    | _ => do
      let (handle, input) ← tagHandle false s.input
      if handle.length ≥ 2 && handle.getLast? == some '!' then
        let (rest, input) := input.skipWhile (isTagChar false)
        if rest.isEmpty then none else return (handle, rest, input)
      else
        let (rest, input) := input.skipWhile (isTagChar false)
        let rest := handle.drop 1 ++ rest
        if rest.isEmpty then return ([], ['!'], input) else return (['!'], rest, input))
  if !(atGap input.rest || (s.inFlow && input.rest.head? == some ',')) then none
  else return { s.push (.tag handle rest) s.place input.place with input, keyAllowed := false }

def scanBlockScalar (s : Scanner) (literal : Bool) : Option Scanner := do
  let s ← s.dropKey
  let r ← scanBlock literal s.indent s.input
  let style := if literal then Style.literal else Style.folded
  return { s.push (.scalar r.text style) s.place r.stop with input := r.after, keyAllowed := true }

def scanQuotedScalar (s : Scanner) (single : Bool) : Option Scanner := do
  let s ← s.saveKey
  let r ← scanQuoted single s.input
  let style := if single then Style.single else Style.double
  return { s.push (.scalar r.text style) s.place r.stop with input := r.after, keyAllowed := false }

def scanPlainScalar (s : Scanner) : Option Scanner := do
  let s ← s.saveKey
  let r ← scanPlain s.inFlow (s.indent + 1).toNat s.input
  return { s.push (.scalar r.text .plain) s.place r.stop with
    input := r.after, keyAllowed := r.newLine }

def startsPlain (flow : Bool) : List Char → Bool
  | [] => false
  | c :: cs =>
    !(atGap (c :: cs) || "-?:,[]\x7b\x7d#&*!|>'\"%@`".toList.contains c) ||
      (c == '-' && !(cs.head?.any isGap)) ||
      (!flow && (c == '?' || c == ':') && !atGap cs)

def step (s : Scanner) : Option Scanner := do
  let s := skipBlank (s.input.rest.length + 1) s
  let s ← s.dropStale
  let s := s.closeBlocks s.place.column
  if atEnd s.input.rest then s.scanEnd
  else
    let lineStart := s.place.column == 0
    match s.input.rest with
    | [] => none
    | c :: cs =>
      if lineStart && c == '%' then s.scanDirective
      else if lineStart && atMark '-' (c :: cs) then s.scanMark .documentStart
      else if lineStart && atMark '.' (c :: cs) then s.scanMark .documentEnd
      else if c == '[' then s.scanFlowStart .flowSequenceStart
      else if c == '\x7b' then s.scanFlowStart .flowMappingStart
      else if c == ']' then s.scanFlowEnd .flowSequenceEnd
      else if c == '\x7d' then s.scanFlowEnd .flowMappingEnd
      else if c == ',' then s.scanFlowEntry
      else if c == '-' && atGap cs then s.scanBlockEntry
      else if c == '?' && (s.inFlow || atGap cs) then s.scanKey
      else if c == ':' && (s.inFlow || atGap cs) then s.scanValue
      else if c == '*' then s.scanAnchor .alias
      else if c == '&' then s.scanAnchor .anchor
      else if c == '!' then s.scanTag
      else if c == '|' && !s.inFlow then s.scanBlockScalar true
      else if c == '>' && !s.inFlow then s.scanBlockScalar false
      else if c == '\x27' then s.scanQuotedScalar true
      else if c == '"' then s.scanQuotedScalar false
      else if startsPlain s.inFlow (c :: cs) then s.scanPlainScalar
      else none

/-! ## All tokens -/

/-- Whether the first token of the queue may still get a key before it. -/
def mustWait (s : Scanner) : Bool :=
  s.queue.isEmpty || s.keys.any fun k? => k?.any fun k => k.number == s.handed

/-- The tokens up to the end of the text or the first fault. -/
def run : Nat → Scanner → List Token
  | 0, _ => []
  | fuel + 1, s =>
    match s.queue with
    | t :: ts =>
      match s.dropStale with
      | none => []
      | some s =>
        if s.mustWait && !s.ended then
          match s.step with
          | some s => run fuel s
          | none => []
        else t :: run fuel { s with queue := ts, handed := s.handed + 1 }
    | [] =>
      if s.ended then []
      else
        match s.step with
        | some s => run fuel s
        | none => []

end Scanner

/-- The tokens of a text. A text with a fault has no end-of-text token. -/
def tokens (text : List Char) : List Token :=
  let text := match text with
    | '\uFEFF' :: cs => cs
    | cs => cs
  if text.all isAllowed then (Scanner.start text).run (8 * text.length + 64) else []

end ViewWeave.Yaml
