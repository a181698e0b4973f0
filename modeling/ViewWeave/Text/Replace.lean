import ViewWeave.Text.Affix

/-!
# Splitting and replacing

Splitting at a text and putting another one in its place. The empty text stands between any two
characters and at both ends.
-/

namespace ViewWeave.Text

/-- The pieces of `s` around at most `n` places where `p` occurs. -/
def pieces (p : List Char) : Nat → List Char → List (List Char)
  | 0, s => [s]
  | n + 1, s =>
    match breakOn? p s with
    | none => [s]
    | some (a, b) => a :: pieces p n b

def splitBy (p s : List Char) : List (List Char) :=
  if p.isEmpty then [] :: (s.map ([·]) ++ [[]]) else pieces p s.length s

def replace (p q s : List Char) : List Char := q.intercalate (splitBy p s)

end ViewWeave.Text
