/-!
# Tokens of layout files

A layout file is a YAML document. Here are its tokens, the places they come from, and the character
classes that tell them apart.
-/

namespace ViewWeave.Yaml

/-- A place in a text; all three counts start at zero. -/
structure Place where
  index : Nat
  line : Nat
  column : Nat
  deriving DecidableEq, Repr

inductive Style
  | plain | single | double | literal | folded
  deriving DecidableEq, Repr

inductive Kind
  | streamEnd
  | version (major minor : Nat)
  | tagDirective (handle : List Char) (start : List Char)
  | documentStart | documentEnd
  | blockSequenceStart | blockMappingStart | blockEnd
  | flowSequenceStart | flowSequenceEnd | flowMappingStart | flowMappingEnd
  | blockEntry | flowEntry | key | value
  | alias (name : List Char)
  | anchor (name : List Char)
  | tag (handle : List Char) (rest : List Char)
  | scalar (text : List Char) (style : Style)
  deriving DecidableEq, Repr

structure Token where
  kind : Kind
  start : Place
  stop : Place
  deriving DecidableEq, Repr

/-! ## Character classes -/

def isGap (c : Char) : Bool := c == ' ' || c == '\t'

def isBreak (c : Char) : Bool :=
  c == '\n' || c == '\r' || c == '\u0085' || c == '\u2028' || c == '\u2029'

/-- A letter of names: of anchors, of tag handles and of directives. -/
def isNameChar (c : Char) : Bool := c.isAlphanum || c == '_' || c == '-'

def atEnd : List Char → Bool
  | [] => true
  | c :: _ => c == '\x00'

def atGap (s : List Char) : Bool :=
  atEnd s || s.head?.any fun c => isGap c || isBreak c

def atLineEnd (s : List Char) : Bool := atEnd s || s.head?.any isBreak

/-- Whether a document mark stands here: three times `c` before a gap. -/
def atMark (c : Char) : List Char → Bool
  | a :: b :: d :: rest => a == c && b == c && d == c && atGap rest
  | _ => false

/-- Characters that may stand in a layout file at all. -/
def isAllowed (c : Char) : Bool :=
  let n := c.toNat
  n == 9 || n == 10 || n == 13 || (32 ≤ n && n ≤ 126) || n == 133 ||
    (160 ≤ n && n ≤ 0xD7FF) || (0xE000 ≤ n && n ≤ 0xFFFD) || 0x10000 ≤ n

/-! ## Text still to be scanned -/

structure Input where
  rest : List Char
  place : Place
  deriving DecidableEq, Repr

namespace Input

def skip (s : Input) : Input :=
  match s.rest with
  | [] => s
  | _ :: cs => ⟨cs, ⟨s.place.index + 1, s.place.line, s.place.column + 1⟩⟩

def skipMany (n : Nat) (s : Input) : Input :=
  ⟨s.rest.drop n, ⟨s.place.index + n, s.place.line, s.place.column + n⟩⟩

/-- Passes a line break, if one comes next, and tells its text: a line feed but for the two
separators that stand for themselves. -/
def breakLine (s : Input) : List Char × Input :=
  let down (n : Nat) (cs : List Char) : Input := ⟨cs, ⟨s.place.index + n, s.place.line + 1, 0⟩⟩
  match s.rest with
  | '\r' :: '\n' :: cs => (['\n'], down 2 cs)
  | c :: cs =>
    if c == '\u2028' || c == '\u2029' then ([c], down 1 cs)
    else if isBreak c then (['\n'], down 1 cs)
    else ([], s)
  | [] => ([], s)

def skipWhile (p : Char → Bool) (s : Input) : List Char × Input :=
  let cs := s.rest.takeWhile p
  (cs, s.skipMany cs.length)

end Input

end ViewWeave.Yaml
