import ViewWeave.Text.WidthTable

/-!
# Column widths

How many columns of a terminal a text fills.
-/

namespace ViewWeave.Text

def charWidth (c : Char) : Nat :=
  if 32 ≤ c.toNat ∧ c.toNat < 127 then 1
  else if c.toNat < 32 ∨ (127 ≤ c.toNat ∧ c.toNat < 160) then 0
  else if inRanges markRanges c || c.toNat = 0x200D || c.toNat = 0x200B then 0
  else if inRanges wideRanges c then 2
  else 1

def width (s : String) : Nat := s.toList.foldl (fun n c => n + charWidth c) 0

end ViewWeave.Text
