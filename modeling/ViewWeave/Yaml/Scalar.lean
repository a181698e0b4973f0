import ViewWeave.Yaml.Token

/-!
# Scalars of layout files

The three ways to write a text: plain, between quotes, and as an indented block. Each scanner
answers with the text and what follows it, or with nothing if the text is malformed.
-/

namespace ViewWeave.Yaml

/-! ## White space between the parts of a scalar -/

/-- White space seen since the last character of a scalar. -/
structure Gap where
  /-- Gaps before the first line break. -/
  spaces : List Char
  firstBreak : List Char
  moreBreaks : List Char
  /-- Whether a line break was seen, or escaped. -/
  broken : Bool

def Gap.none : Gap := ⟨[], [], [], false⟩

/-- What the white space contributes to the text: a single line break is a blank, more of them
lose the first. -/
def Gap.text (g : Gap) : List Char :=
  if !g.broken then g.spaces
  else if g.firstBreak.head? == some '\n' then
    if g.moreBreaks.isEmpty then [' '] else g.moreBreaks
  else g.firstBreak ++ g.moreBreaks

/-- Passes white space; `tabOk` says whether a tab after a break is in order at a column. -/
def skipGap (tabOk : Nat → Bool) : Nat → Gap → Input → Option (Gap × Input)
  | 0, g, s => some (g, s)
  | fuel + 1, g, s =>
    match s.rest with
    | c :: _ =>
      if isGap c then
        if g.broken then
          if c == '\t' && !tabOk s.place.column then Option.none
          else skipGap tabOk fuel g s.skip
        else skipGap tabOk fuel { g with spaces := g.spaces ++ [c] } s.skip
      else if isBreak c then
        let (b, s') := s.breakLine
        if g.broken then skipGap tabOk fuel { g with moreBreaks := g.moreBreaks ++ b } s'
        else skipGap tabOk fuel { g with spaces := [], firstBreak := b, broken := true } s'
      else some (g, s)
    | [] => some (g, s)

/-! ## Plain scalars -/

def endsPlain (flow : Bool) : List Char → Bool
  | [] => true
  | c :: cs =>
    atGap (c :: cs) || (c == ':' && atGap cs) ||
      (flow && (c == ',' || c == '[' || c == ']' || c == '\x7b' || c == '\x7d'))

/-- Whether a colon stands before a flow indicator, which no plain scalar may hold. -/
def badColon (flow : Bool) : List Char → Bool
  | ':' :: c :: _ =>
    flow && (c == ',' || c == '?' || c == '[' || c == ']' || c == '\x7b' || c == '\x7d')
  | _ => false

/-- Whether these characters end a scalar at the start of a line. -/
def atDocumentMark (s : Input) : Bool :=
  s.place.column == 0 && (atMark '-' s.rest || atMark '.' s.rest)

/-- A scanned scalar: its text, where it stops, what follows, and whether it ended on a new line. -/
structure Scanned where
  text : List Char
  stop : Place
  after : Input
  newLine : Bool

def plainWord (flow : Bool) : List Char → Option (List Char)
  | [] => some []
  | c :: cs =>
    if atGap (c :: cs) then some []
    else if badColon flow (c :: cs) then none
    else if endsPlain flow (c :: cs) then some []
    else (plainWord flow cs).map (c :: ·)

/-- The words of a plain scalar after `done`; `indent` is the least column of its further lines. -/
def plainFrom (flow : Bool) (indent : Nat) :
    Nat → List Char → Place → Gap → Input → Option Scanned
  | 0, done, stop, g, s => some ⟨done, stop, s, g.broken⟩
  | fuel + 1, done, stop, g, s =>
    if atDocumentMark s || s.rest.head? == some '#' then some ⟨done, stop, s, g.broken⟩
    else do
      let w ← plainWord flow s.rest
      let t := s.skipMany w.length
      let (done, stop, g) :=
        if w.isEmpty then (done, stop, g) else (done ++ g.text ++ w, t.place, Gap.none)
      if !(t.rest.head?.any fun c => isGap c || isBreak c) then return ⟨done, stop, t, g.broken⟩
      let (g, u) ← skipGap (fun column => indent ≤ column) (t.rest.length + 1) g t
      -- a further line has to be indented deeper than the block around
      if !flow && u.place.column < indent then return ⟨done, stop, u, g.broken⟩
      plainFrom flow indent fuel done stop g u

def scanPlain (flow : Bool) (indent : Nat) (s : Input) : Option Scanned :=
  plainFrom flow indent (s.rest.length + 1) [] s.place Gap.none s

/-! ## Quoted scalars -/

def shortEscape? : Char → Option Char
  | '0' => some '\x00'
  | 'a' => some '\x07'
  | 'b' => some '\x08'
  | 't' | '\t' => some '\t'
  | 'n' => some '\n'
  | 'v' => some '\x0b'
  | 'f' => some '\x0c'
  | 'r' => some '\r'
  | 'e' => some '\x1b'
  | ' ' => some ' '
  | '"' => some '"'
  | '/' => some '/'
  | '\\' => some '\\'
  | 'N' => some '\u0085'
  | '_' => some '\u00A0'
  | 'L' => some '\u2028'
  | 'P' => some '\u2029'
  | _ => none

def longEscape? : Char → Option Nat
  | 'x' => some 2
  | 'u' => some 4
  | 'U' => some 8
  | _ => none

def hexDigit? (c : Char) : Option Nat :=
  if '0' ≤ c ∧ c ≤ '9' then some (c.toNat - 48)
  else if 'a' ≤ c ∧ c ≤ 'f' then some (c.toNat - 87)
  else if 'A' ≤ c ∧ c ≤ 'F' then some (c.toNat - 55)
  else none

def escapedChar? (digits : List Char) : Option Char := do
  let n ← digits.foldlM (fun n d => (hexDigit? d).map (n * 16 + ·)) 0
  if n.isValidChar then some (Char.ofNat n) else none

/-- One run of a quoted scalar up to white space, its closing quote or an escaped line break;
the last part tells of the break. -/
def quotedRun (single : Bool) : Nat → List Char → Input → Option (List Char × Input × Bool)
  | 0, _, _ => none
  | fuel + 1, done, s =>
    if atGap s.rest then some (done, s, false)
    else
      match s.rest with
      | [] => some (done, s, false)
      | c :: cs =>
        if single then
          if c == '\x27' then
            if cs.head? == some '\x27' then quotedRun single fuel (done ++ ['\x27']) (s.skipMany 2)
            else some (done, s, false)
          else quotedRun single fuel (done ++ [c]) s.skip
        else if c == '"' then some (done, s, false)
        else if c == '\\' then
          match cs with
          | [] => none
          | e :: es =>
            if isBreak e then some (done, s.skip.breakLine.2, true)
            else
              match shortEscape? e with
              | some x => quotedRun single fuel (done ++ [x]) (s.skipMany 2)
              | none => do
                let n ← longEscape? e
                let digits := es.take n
                if digits.length < n then none
                else
                  let x ← escapedChar? digits
                  quotedRun single fuel (done ++ [x]) (s.skipMany (2 + n))
        else quotedRun single fuel (done ++ [c]) s.skip

def quotedFrom (single : Bool) : Nat → List Char → Input → Option Scanned
  | 0, _, _ => none
  | fuel + 1, done, s =>
    if atDocumentMark s || atEnd s.rest then none
    else do
      let (done, s, escaped) ← quotedRun single (s.rest.length + 1) done s
      if s.rest.head? == some (if single then '\x27' else '"') then
        return ⟨done, s.skip.place, s.skip, false⟩
      let (g, s) ← skipGap (fun _ => true) (s.rest.length + 1) { Gap.none with broken := escaped } s
      quotedFrom single fuel (done ++ g.text) s

def scanQuoted (single : Bool) (s : Input) : Option Scanned :=
  quotedFrom single (s.rest.length + 1) [] s.skip

/-! ## Block scalars -/

/-- What becomes of the line breaks at the end of a block. -/
inductive Chomp
  | strip | clip | keep
  deriving DecidableEq, Repr

/-- The indicators after `|` or `>`: the chomping and an indentation of its own. -/
def blockHeader (s : Input) : Option (Chomp × Option Nat × Input) :=
  let sign? (s : Input) : Option Chomp × Input :=
    match s.rest with
    | '+' :: _ => (some .keep, s.skip)
    | '-' :: _ => (some .strip, s.skip)
    | _ => (none, s)
  let digit? (s : Input) : Option (Option Nat × Input) :=
    match s.rest with
    | c :: _ =>
      if c.isDigit then (if c == '0' then none else some (some (c.toNat - 48), s.skip))
      else some (none, s)
    | [] => some (none, s)
  match sign? s with
  | (some k, s) => (digit? s).map fun (n, s) => (k, n, s)
  | (none, s) =>
    (digit? s).map fun (n, s) =>
      match n with
      | none => (.clip, none, s)
      | some n => match sign? s with
        | (k, s) => (k.getD .clip, some n, s)

/-- The empty lines before a line of a block. The indentation is settled by the first line with
text, and is at least `least`. -/
def blockBreaks (least : Nat) (indent : Option Nat) :
    Nat → Nat → List Char → Input → Option (List Char × Nat × Input)
  | 0, _, breaks, s => some (breaks, indent.getD least, s)
  | fuel + 1, widest, breaks, s =>
    let room := match indent with
      | some n => n - s.place.column
      | none => s.rest.length
    let blanks := (s.rest.take room).takeWhile (· == ' ')
    let s := s.skipMany blanks.length
    let widest := max widest s.place.column
    let short := match indent with
      | some n => s.place.column < n
      | none => true
    if short && s.rest.head? == some '\t' then none
    else if s.rest.head?.any isBreak then
      let (b, s) := s.breakLine
      blockBreaks least indent fuel widest (breaks ++ b) s
    else some (breaks, indent.getD (max widest least), s)

def blockLines (literal : Bool) (indent : Nat) :
    Nat → List Char → List Char → List Char → Bool → Input →
      Option (List Char × List Char × List Char × Input)
  | 0, done, lead, trail, _, s => some (done, lead, trail, s)
  | fuel + 1, done, lead, trail, leadingBlank, s =>
    if s.place.column == indent && !atEnd s.rest then do
      let blank := s.rest.head?.any isGap
      -- one line break between two lines that begin without a blank is folded
      let fold := !literal && lead.head? == some '\n' && !leadingBlank && !blank
      let done := if fold then (if trail.isEmpty then done ++ [' '] else done) else done ++ lead
      let (line, s) := s.skipWhile fun c => !(isBreak c || c == '\x00')
      let done := done ++ trail ++ line
      let (lead, s) := s.breakLine
      let (trail, _, s) ← blockBreaks indent (some indent) (s.rest.length + 1) 0 [] s
      blockLines literal indent fuel done lead trail blank s
    else some (done, lead, trail, s)

def scanBlock (literal : Bool) (parent : Int) (s : Input) : Option Scanned := do
  let (chomp, own, s) ← blockHeader s.skip
  let (_, s) := s.skipWhile isGap
  let s := if s.rest.head? == some '#' then
    (s.skipWhile fun c => !(isBreak c || c == '\x00')).2 else s
  if !atLineEnd s.rest then none
  else
    let (_, s) := s.breakLine
    let indent := own.map fun n => (if parent ≥ 0 then parent.toNat + n else n)
    let least := max 1 (parent + 1).toNat
    let (trail, indent, s) ← blockBreaks least indent (s.rest.length + 1) 0 [] s
    let (text, lead, trail, s) ← blockLines literal indent (s.rest.length + 1) [] [] trail false s
    let text := if chomp = .strip then text else text ++ lead
    let text := if chomp = .keep then text ++ trail else text
    return ⟨text, s.place, s, true⟩

end ViewWeave.Yaml
