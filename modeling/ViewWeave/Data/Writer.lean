import ViewWeave.Data.Value
import ViewWeave.Text.Quoted

/-!
# Writing data text

A value as data text, on one line or indented by two spaces a level.
-/

namespace ViewWeave.Value

/-! ## Strings -/

def writtenChar (c : Char) : List Char :=
  if c = '"' then ['\\', '"']
  else if c = '\\' then ['\\', '\\']
  else if c = '\n' then ['\\', 'n']
  else if c = '\r' then ['\\', 'r']
  else if c = '\t' then ['\\', 't']
  else if c.toNat = 8 then ['\\', 'b']
  else if c.toNat = 12 then ['\\', 'f']
  else if c.toNat < 32 then
    ['\\', 'u', '0', '0', Text.hexDigit (c.toNat / 16), Text.hexDigit (c.toNat % 16)]
  else [c]

def writtenString (s : String) : List Char := '"' :: (s.toList.flatMap writtenChar ++ ['"'])

/-! ## On one line -/

mutual

def compact : Value → List Char
  | .null => "null".toList
  | .bool b => boolText b
  | .num n => n.dataText
  | .str s => writtenString s
  | .arr items => '[' :: (compactItems items ++ [']'])
  | .obj fields => '\x7b' :: (compactFields fields ++ ['\x7d'])

def compactItems : List Value → List Char
  | [] => []
  | v :: rest =>
    match rest with
    | [] => compact v
    | _ :: _ => compact v ++ ',' :: compactItems rest

def compactFields : List (String × Value) → List Char
  | [] => []
  | (k, v) :: rest =>
    writtenString k ++ ':' ::
      match rest with
      | [] => compact v
      | _ :: _ => compact v ++ ',' :: compactFields rest

end

def compactText (v : Value) : String := String.ofList v.compact

/-! ## Indented -/

def newLine (n : Nat) : List Char := '\n' :: List.replicate (2 * n) ' '

mutual

/-- A value whose lines after the first are indented to level `n`. -/
def indented (n : Nat) : Value → List Char
  | .null => "null".toList
  | .bool b => boolText b
  | .num x => x.dataText
  | .str s => writtenString s
  | .arr [] => ['[', ']']
  | .arr (v :: rest) => '[' :: (indentedItems (n + 1) (v :: rest) ++ newLine n ++ [']'])
  | .obj [] => ['\x7b', '\x7d']
  | .obj (f :: rest) => '\x7b' :: (indentedFields (n + 1) (f :: rest) ++ newLine n ++ ['\x7d'])

def indentedItems (n : Nat) : List Value → List Char
  | [] => []
  | v :: rest =>
    newLine n ++ indented n v ++
      match rest with
      | [] => []
      | _ :: _ => ',' :: indentedItems n rest

def indentedFields (n : Nat) : List (String × Value) → List Char
  | [] => []
  | (k, v) :: rest =>
    newLine n ++ writtenString k ++ ':' :: ' ' :: indented n v ++
      match rest with
      | [] => []
      | _ :: _ => ',' :: indentedFields n rest

end

def indentedText (v : Value) : String := String.ofList (v.indented 0)

end ViewWeave.Value
