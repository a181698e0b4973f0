import ViewWeave.Render.Filter.Basic
import ViewWeave.Render.Html
import ViewWeave.Text.Blank
import ViewWeave.Text.Case
import ViewWeave.Text.Grapheme
import ViewWeave.Text.Replace
import ViewWeave.Text.Utf8

/-!
# Filters on text
-/

namespace ViewWeave.Filter

def onText (f : List Char → List Char) : Filter := fun v _ => do
  let s ← textInput v
  return .str (String.ofList (f s.toList))

/-- A text with line ends and tabs that were written out made real. -/
def unescaped (s : String) : List Char :=
  Text.replace ['\\', 't'] ['\t'] (Text.replace ['\\', 'n'] ['\n'] s.toList)

def split : Filter := fun v args => do
  let s ← textInput v
  let p ← argElse args "pat" (.noArg "pat") text
  return .arr ((Text.splitBy (unescaped p) s.toList).map fun w => .str (String.ofList w))

def replace : Filter := fun v args => do
  let s ← textInput v
  let p ← argElse args "from" (.noArg "from") text
  let q ← argElse args "to" (.noArg "to") text
  return .str (String.ofList (Text.replace p.toList q.toList s.toList))

/-- The first clusters of a longer text with an ending. -/
def truncate : Filter := fun v args => do
  let s ← textInput v
  let n ← argOr args "length" 255 count
  let e ← argOr args "end" "…" text
  let cs := Text.clusters s.toList
  return if cs.length ≤ n then v else .str (String.ofList ((cs.take n).flatten ++ e.toList))

def wordCount : Filter := fun v _ => do
  let s ← textInput v
  return .ofInt (Text.words s.toList).length

def addSlashes (s : List Char) : List Char :=
  s.flatMap fun c => if c = '\\' || c = '"' || c = '\x27' then ['\\', c] else [c]

def lineBreaks (s : List Char) : List Char :=
  let tag := "<br>".toList
  Text.replace ['\n'] tag (Text.replace ['\r', '\n'] tag s)

/-- A byte as it stands in an encoded address; bytes of `kept` characters stand for themselves. -/
def encodedByte (kept : Char → Bool) (b : UInt8) : List Char :=
  let c := Char.ofNat b.toNat
  let digit (n : Nat) := if n < 10 then Char.ofNat (48 + n) else Char.ofNat (55 + n)
  if b < 0x80 && (c.isAlphanum || kept c) then [c]
  else ['%', digit (b.toNat / 16), digit (b.toNat % 16)]

def urlEncode (kept : Char → Bool) (s : List Char) : List Char :=
  (Text.utf8 (String.ofList s)).flatMap (encodedByte kept)

def escape : Filter := fun v _ =>
  match v with
  | .str s => .ok (.str (Html.escape s))
  | v => .error (.badEscape v)

def texts : List (String × Filter) :=
  [("upper", onText Text.upper), ("lower", onText Text.lower),
   ("capitalize", onText Text.capitalize), ("trim", onText Text.trim),
   ("trim_start", onText Text.trimStart), ("trim_end", onText Text.trimEnd), ("split", split),
   ("replace", replace), ("truncate", truncate), ("wordcount", wordCount),
   ("addslashes", onText addSlashes), ("linebreaksbr", onText lineBreaks),
   ("urlencode", onText (urlEncode fun c => "/-._~%".toList.contains c)),
   ("urlencode_strict", onText (urlEncode fun _ => false)),
   ("escape", escape)]

end ViewWeave.Filter
