import ViewWeave.Data.Value
import ViewWeave.Decimal.Reading

/-!
# Pointers into values

A dotted pointer leads from a value to a part of it. Quotes keep a dot inside a segment.
-/

namespace ViewWeave.Pointer

inductive Quote
  | none | single | double
  deriving DecidableEq, Repr

/-- The segments of a pointer, where `w` is the reverse of a segment begun before. -/
def segmentsFrom (q : Quote) (w : List Char) : List Char → List (List Char)
  | [] => if w.isEmpty then [] else [w.reverse]
  | c :: cs =>
    let ended (q : Quote) :=
      if w.isEmpty then segmentsFrom q [] cs else w.reverse :: segmentsFrom q [] cs
    match q with
    | .none =>
      if c = '.' then ended .none
      else if c = '"' then ended .double
      else if c = '\x27' then ended .single
      else segmentsFrom .none (c :: w) cs
    | .double => if c = '"' then ended .none else segmentsFrom .double (c :: w) cs
    | .single => if c = '\x27' then ended .none else segmentsFrom .single (c :: w) cs

/-- A segment with its escapes for the slash and the tilde undone. -/
def unescape : List Char → List Char
  | '~' :: '1' :: cs => '/' :: unescape cs
  | '~' :: '0' :: cs => '~' :: unescape cs
  | c :: cs => c :: unescape cs
  | [] => []

def segments (p : List Char) : List (List Char) := (segmentsFrom .none [] p).map unescape

def index? (s : List Char) : Option Nat :=
  match s with
  | '+' :: _ => none
  | '0' :: _ :: _ => none
  | _ => (Decimal.readNat? 10 s).filter (· < Decimal.words)

def follow : List (List Char) → Value → Option Value
  | [], v => some v
  | s :: rest, .obj fields =>
    match Fields.get? fields (String.ofList s) with
    | some v => follow rest v
    | none => none
  | s :: rest, .arr items =>
    match (index? s).bind (items[·]?) with
    | some v => follow rest v
    | none => none
  | _ :: _, _ => none

def find? (p : List Char) (v : Value) : Option Value := follow (segments p) v

end ViewWeave.Pointer
