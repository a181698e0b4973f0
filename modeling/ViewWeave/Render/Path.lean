import ViewWeave.Render.Fault
import ViewWeave.Render.Pointer
import ViewWeave.Text.Replace

/-!
# Paths

A path names a variable and leads to a part of it. A name between brackets stands for the value of
another path, which is put in its place before the path is followed.
-/

namespace ViewWeave.Path

/-- The names between brackets, where `inside` holds the depth and the reverse of one begun. -/
def subscriptsFrom (inside : Option (Nat × List Char)) : List Char → List (List Char)
  | [] => []
  | x :: xs =>
    match inside with
    | none =>
      if x = '[' then
        match xs with
        | [] => []
        | c :: cs =>
          -- what is quoted is a field's own name
          if c = '"' || c = '\x27' then subscriptsFrom none cs
          else subscriptsFrom (some (0, [c])) cs
      else subscriptsFrom none xs
    | some (depth, w) =>
      if x = '[' then subscriptsFrom (some (depth + 1, x :: w)) xs
      else if x = ']' then
        match depth with
        | 0 => w.reverse :: subscriptsFrom none xs
        | depth + 1 => subscriptsFrom (some (depth, x :: w)) xs
      else subscriptsFrom (some (depth, x :: w)) xs

def isPosition (s : List Char) : Bool := (Decimal.readNat? 10 s).any (· < Decimal.words)

def subscripts (path : List Char) : List (List Char) :=
  (subscriptsFrom none path).filter fun s => !isPosition s

def indexText? : Value → Option (List Char)
  | .str s => some ('"' :: (s.toList ++ ['"']))
  | .num n => some n.dataText
  | _ => none

/-- The path with `text` after a dot in the place of a subscript. -/
def substitute (path subscript text : List Char) : List Char :=
  let (a, b) := (Text.breakOn? ('[' :: (subscript ++ [']'])) path).getD (path, [])
  a ++ '.' :: (text ++ b)

def toPointer (path : List Char) : List Char :=
  let path := Text.replace ['/'] ['~', '1'] path
  let path := Text.replace ['[', '\x27'] ['.', '"'] path
  let path := Text.replace ['[', '"'] ['.', '"'] path
  let path := Text.replace ['['] ['.'] path
  let path := Text.replace ['\x27', ']'] ['"'] path
  let path := Text.replace ['"', ']'] ['"'] path
  Text.replace [']'] [] path

/-- The value that a path leads to, for a way `find` to follow dotted pointers; the paths in it are
nested at most `n` deep. -/
def resolve (find : List Char → Option Value) (template : String) :
    Nat → List Char → Except Fault Value
  | 0, _ => .error .tooDeep
  | n + 1, path =>
    let name := String.ofList path
    if path.contains '[' then do
      let full ← (subscripts path).foldlM
        (fun full s =>
          match resolve find template n s with
          | .error f => .error (.badIndex name f.message)
          | .ok v =>
            match indexText? v with
            | some text => .ok (substitute full s text)
            | none => .error (.wrongIndex (String.ofList s) name))
        path
      let pointer := toPointer full
      match find pointer with
      | some v => .ok v
      | none => .error (.noIndexed name template (String.ofList pointer))
    else
      match find path with
      | some v => .ok v
      | none => .error (.noVariable name template)

end ViewWeave.Path
