/-!
# Padding

Filling a text up to a width counted in characters.
-/

namespace ViewWeave.Text

def padLeft (fill : Char) (w : Nat) (s : List Char) : List Char :=
  List.replicate (w - s.length) fill ++ s

end ViewWeave.Text
