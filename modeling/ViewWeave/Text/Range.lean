/-!
# Character classes given by ranges

A class of characters is a list of closed ranges of code points.
-/

namespace ViewWeave.Text

def inRanges (ranges : List (Nat × Nat)) (c : Char) : Bool :=
  ranges.any fun (first, last) => first ≤ c.toNat && c.toNat ≤ last

end ViewWeave.Text
