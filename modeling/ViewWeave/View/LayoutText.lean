import ViewWeave.View.Layout
import ViewWeave.Yaml.Event
import ViewWeave.Text.Blank
import ViewWeave.Text.Quoted
import ViewWeave.Decimal.Reading
import ViewWeave.Decimal.Style

/-!
# View layouts as text

A view layout is written as a mapping from field names to texts and a truth value. What is not
mentioned keeps its standard value, unknown names are passed over, and no field may be given twice.
-/

namespace ViewWeave

inductive LayoutFault
  /-- The text is no document, or holds more than one. -/
  | malformed
  /-- A value of the wrong kind, or a field given twice. -/
  | mismatch (message : String)
  deriving DecidableEq, Repr

namespace LayoutText

open Yaml

/-! ## Kinds of scalars -/

def isNull (s : List Char) : Bool :=
  s.isEmpty || ["null", "Null", "NULL", "~"].any fun w => w.toList == s

def bool? (s : List Char) : Option Bool :=
  if ["true", "True", "TRUE"].any fun w => w.toList == s then some true
  else if ["false", "False", "FALSE"].any fun w => w.toList == s then some false
  else none

/-- Whether a text has the digits of a number but for zeros at its start. -/
def isZeroLed (s : List Char) : Bool :=
  let s := match s with
    | '-' :: cs | '+' :: cs => cs
    | cs => cs
  match s with
  | '0' :: c :: cs => (c :: cs).all Char.isDigit
  | _ => false

/-- The digits of a whole number without its sign, in base ten or after a mark of another base. -/
def magnitude? (s : List Char) : Option Nat :=
  match s with
  | '0' :: 'x' :: cs => Decimal.readNat? 16 cs
  | '0' :: 'o' :: cs => Decimal.readNat? 8 cs
  | '0' :: 'b' :: cs => Decimal.readNat? 2 cs
  | cs => Decimal.readNat? 10 cs

def int? (s : List Char) : Option Int :=
  if isZeroLed s then none
  else
    match s with
    | '-' :: cs => (magnitude? cs).map fun n => -(n : Int)
    | '+' :: cs => (magnitude? cs).map fun n => (n : Int)
    | cs => (magnitude? cs).map fun n => (n : Int)

/-- The wording of a whole number, if 128 bits hold it. -/
def intText? (i : Int) : Option String :=
  let text := String.ofList (Decimal.intText i)
  if -9223372036854775808 ≤ i ∧ i ≤ 18446744073709551615 then some s!"integer `{text}`"
  else if 0 ≤ i ∧ i.toNat < Nat.pow 2 128 then some s!"integer `{text}` as u128"
  else if i < 0 ∧ i.natAbs ≤ Nat.pow 2 127 then some s!"integer `{text}` as i128"
  else none

def float? (s : List Char) : Option Float :=
  let unsigned := match s with
    | '+' :: cs => cs
    | cs => cs
  if s.head? == some '+' && unsigned.head?.any (fun c => c == '+' || c == '-') then none
  else if [".inf", ".Inf", ".INF"].any fun w => w.toList == unsigned then
    some (Float.ofBits 0x7FF0000000000000)
  else if ["-.inf", "-.Inf", "-.INF"].any fun w => w.toList == s then
    some (Float.ofBits 0xFFF0000000000000)
  else if [".nan", ".NaN", ".NAN"].any fun w => w.toList == s then
    some (Float.ofBits 0x7FF8000000000000)
  else (Decimal.readFloat? unsigned).filter Float.isFinite

/-- The wording of a double, with a decimal point if it is finite. -/
def floatText (x : Float) : String :=
  let text := Decimal.Style.plain.text x
  let text := if text.contains '.' || !x.isFinite then text else text ++ ['.', '0']
  s!"floating point `{String.ofList text}`"

def stringText (s : List Char) : String := s!"string {Text.quoted (String.ofList s)}"

def plainKind (s : List Char) : String :=
  if isNull s then "unit value"
  else
    match bool? s with
    | some b => if b then "boolean `true`" else "boolean `false`"
    | none =>
      match (int? s).bind intText? with
      | some text => text
      | none =>
        match if isZeroLed s then none else float? s with
        | some x => floatText x
        | none => stringText s

def tagRoot : List Char := "tag:yaml.org,2002:".toList

/-- The wording of what a scalar stands for; nothing if its tag belies it. -/
def scalarKind (tag : Option (List Char)) (s : List Char) (style : Style) : Option String :=
  match tag with
  | none => some (if style = .plain then plainKind s else stringText s)
  | some t =>
    if t = tagRoot ++ "bool".toList then
      (bool? s).map fun b => if b then "boolean `true`" else "boolean `false`"
    else if t = tagRoot ++ "int".toList then (int? s).bind intText?
    else if t = tagRoot ++ "float".toList then (float? s).map floatText
    else if t = tagRoot ++ "null".toList then
      if isNull s && !s.isEmpty then some "unit value" else none
    else if t.head? == some '!' && style = .plain then some (plainKind s)
    else some (stringText s)

def eventKind : Event → Option String
  | .scalar _ tag s style => scalarKind tag s style
  | .sequenceStart _ => some "sequence"
  | .mappingStart _ => some "map"
  | _ => none

/-! ## Faults -/

/-- The wording of a place, if it is not the very start. -/
def placeText (p : Place) : String :=
  if p.line = 0 ∧ p.column = 0 then "" else s!" at line {p.line + 1} column {p.column + 1}"

/-- The fault of an event that stands where something else was expected; `path` names the field. -/
def mismatch (path : Option (List Char)) (expected : String) (m : Marked) : LayoutFault :=
  match eventKind m.event with
  | none => .malformed
  | some kind =>
    let path := match path with
      | none => ""
      | some p => String.ofList p ++ ": "
    .mismatch s!"{path}invalid type: {kind}, expected {expected}{placeText m.place}"

/-! ## Aliases -/

def anchor? : Event → Option (List Char)
  | .scalar a _ _ _ | .sequenceStart a | .mappingStart a => a
  | _ => none

/-- The events of a document, each alias with the event it stands for; they stop before an alias
that stands for nothing. The last part tells whether the document was ended. -/
def resolve (known : List (List Char × Marked)) :
    List Marked → List (Marked × Bool) × Bool × List Marked
  | [] => ([], false, [])
  | m :: ms =>
    match m.event with
    | .documentEnd => ([], true, ms)
    | .alias name =>
      match known.lookup name with
      | none => ([], false, [])
      | some target =>
        let (es, r) := resolve known ms
        ((target, true) :: es, r)
    | e =>
      let known := match anchor? e with
        | some a => (a, m) :: known
        | none => known
      let (es, r) := resolve known ms
      ((m, false) :: es, r)

/-! ## Fields -/

inductive Field
  | layoutsRoot | pagesRoot | sharedRoot | fragmentExtension | nameMarker | autoescape
  deriving DecidableEq, Repr

def Field.text : Field → String
  | .layoutsRoot => "layouts_root"
  | .pagesRoot => "pages_root"
  | .sharedRoot => "shared_root"
  | .fragmentExtension => "fragment_extension"
  | .nameMarker => "name_marker"
  | .autoescape => "autoescape"

def Field.all : List Field :=
  [.layoutsRoot, .pagesRoot, .sharedRoot, .fragmentExtension, .nameMarker, .autoescape]

def Field.of? (s : List Char) : Option Field := Field.all.find? fun f => f.text.toList == s

def Field.setText (f : Field) (s : String) (v : ViewLayout) : ViewLayout :=
  match f with
  | .layoutsRoot => { v with layoutsRoot := s }
  | .pagesRoot => { v with pagesRoot := s }
  | .sharedRoot => { v with sharedRoot := s }
  | .fragmentExtension => { v with fragmentExtension := s }
  | .nameMarker => { v with nameMarker := s }
  | .autoescape => v

def Field.set (f : Field) (path : List Char) (m : Marked) (v : ViewLayout) :
    Except LayoutFault ViewLayout :=
  match f, m.event with
  | .autoescape, .scalar _ tag s style =>
    let fits := style = .plain ∨ (style = .literal ∧ tag = some (tagRoot ++ "bool".toList))
    match if fits then bool? s else none with
    | some b => .ok { v with autoescape := b }
    | none => .error (mismatch (some path) "a boolean" m)
  | .autoescape, _ => .error (mismatch (some path) "a boolean" m)
  | f, .scalar _ _ s _ => .ok (f.setText (String.ofList s) v)
  | _, _ => .error (mismatch (some path) "a string" m)

/-- The events after one node; `open_` collections have to be closed first. -/
def skipNode : Nat → List (Marked × Bool) → Option (List (Marked × Bool))
  | _, [] => none
  | depth, (m, isAlias) :: ms =>
    let depth :=
      if isAlias then depth
      else
        match m.event with
        | .sequenceStart _ | .mappingStart _ => depth + 1
        | .sequenceEnd | .mappingEnd => depth - 1
        | _ => depth
    if depth = 0 then some ms else skipNode depth ms

def readPairs (start : Place) :
    Nat → List Field → ViewLayout → List (Marked × Bool) → Except LayoutFault ViewLayout
  | 0, _, _, _ | _, _, _, [] => .error .malformed
  | fuel + 1, seen, v, (m, isAlias) :: ms =>
    match m.event with
    | .mappingEnd => .ok v
    | .scalar _ _ s _ =>
      let path := if isAlias then ['?'] else s
      match Field.of? s with
      | none =>
        match skipNode 0 ms with
        | none => .error .malformed
        | some ms => readPairs start fuel seen v ms
      | some f =>
        if seen.contains f then
          .error (.mismatch s!"duplicate field `{f.text}`{placeText start}")
        else
          match ms with
          | [] => .error .malformed
          | (m, _) :: ms =>
            match f.set path m v with
            | .error e => .error e
            | .ok v => readPairs start fuel (f :: seen) v ms
    | _ => .error (mismatch none "field identifier" m)

def readDocument (ms : List (Marked × Bool)) : Except LayoutFault ViewLayout :=
  match ms with
  | [] => .error .malformed
  | (m, _) :: rest =>
    match m.event with
    | .mappingStart _ => readPairs m.place (rest.length + 1) [] .standard rest
    | .scalar _ _ s style =>
      if s.isEmpty && style = .plain then .ok .standard
      else .error (mismatch none "struct ViewLayout" m)
    | _ => .error (mismatch none "struct ViewLayout" m)

end LayoutText

open Yaml LayoutText in
def ViewLayout.ofText (text : String) : Except LayoutFault ViewLayout :=
  if text.toList.all Text.isBlank then .ok .standard
  else
    match (events text.toList).1 with
    | [] => .error .malformed
    | first :: ms =>
      match first.event with
      | .streamEnd => .ok .standard
      | _ =>
        let (doc, ended, rest) := resolve [] ms
        match readDocument doc with
        | .error e => .error e
        | .ok v =>
          match ended, rest with
          | true, [m] => if m.event = .streamEnd then .ok v else .error .malformed
          | _, _ => .error .malformed

end ViewWeave
