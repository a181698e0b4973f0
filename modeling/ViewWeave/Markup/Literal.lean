import ViewWeave.Markup.Peg
import ViewWeave.Data.Value
import ViewWeave.Decimal.Reading

/-!
# Literals and names

The smallest parts of tags: numbers, quoted texts, truth values, names and paths.
-/

namespace ViewWeave.Markup

open Rule

/-! ## Numbers -/

def isLeadDigit (c : Char) : Bool := '1' ≤ c && c ≤ '9'

/-- Reads digits without a useless zero at their start. -/
def wholeDigits : Rule Unit := lit "0" <|> (do one isLeadDigit; run Char.isDigit)

def wholeText : Rule Unit := do
  let _ ← opt (lit "-")
  wholeDigits

def pointText : Rule Unit := do
  let _ ← opt (lit "-")
  wholeDigits
  lit "."
  run1 Char.isDigit

def fits (i : Int) : Bool := Number.minSigned ≤ i && i ≤ Number.maxSigned

/-- Notes a whole number that is out of range. -/
def noteRange (s : String) (i : Int) : Rule Unit := fun c =>
  some ((), if fits i || c.overflow.isSome then c else { c with overflow := some s })

def whole : Rule Int := do
  let s ← matched wholeText
  let i := (Decimal.readInt? 10 s.toList).getD 0
  noteRange s i
  return i

def double : Rule Float := do
  let s ← matched pointText
  return (Decimal.readFloat? s.toList).getD 0

/-! ## Texts and truth values -/

/-- Reads a text between two marks `q`; there is no way to put the mark inside. -/
def between (q : Char) : Rule String := do
  one (· == q)
  let s ← matched (run (· != q))
  one (· == q)
  return s

def quotedText : Rule String := between '"' <|> between '\x27' <|> between '\x60'

def truth : Rule Bool :=
  (do lit "true"; return true) <|> (do lit "false"; return false) <|>
  (do lit "True"; return true) <|> (do lit "False"; return false)

/-! ## Names -/

def isNameStart (c : Char) : Bool := c.isAlpha || c == '_'

def isNameChar (c : Char) : Bool := isNameStart c || c.isDigit

def nameText : Rule Unit := do one isNameStart; run isNameChar

def name : Rule String := matched nameText

def dotField : Rule Unit := do lit "."; run1 isNameChar

/-- Reads one index of a path, in which paths are nested at most `n` deep. -/
def pathText : Nat → Rule Unit
  | 0 => refuse
  | n + 1 => do
    nameText
    let _ ← many (dotField <|> do
      lit "["
      wholeText <|> (do let _ ← quotedText) <|> pathText n
      lit "]")

/-- The number of brackets ahead, which no nesting exceeds. -/
def bracketsAhead (c : Cursor) : Nat := c.rest.countP fun x => x == '[' || x == '('

/-- Reads a path: a name followed by fields and indices. -/
def path : Rule String := matched fun c => pathText (bracketsAhead c + 1) c

end ViewWeave.Markup
