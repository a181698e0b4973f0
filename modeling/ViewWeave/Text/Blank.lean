import ViewWeave.Text.Range

/-!
# White space

The characters that trimming removes and that separate words.
-/

namespace ViewWeave.Text

def blankRanges : List (Nat × Nat) :=
  [(9, 13), (32, 32), (133, 133), (160, 160), (5760, 5760), (8192, 8202), (8232, 8233),
   (8239, 8239), (8287, 8287), (12288, 12288)]

def isBlank (c : Char) : Bool := inRanges blankRanges c

/-! ## Trimming -/

def trimStart (s : List Char) : List Char := s.dropWhile isBlank

def trimEnd (s : List Char) : List Char := (s.reverse.dropWhile isBlank).reverse

def trim (s : List Char) : List Char := trimEnd (trimStart s)

/-! ## Words -/

/-- The words of `s`, where `w` is the reverse of a word begun before. -/
def wordsFrom (w : List Char) : List Char → List (List Char)
  | [] => if w.isEmpty then [] else [w.reverse]
  | c :: cs =>
    if isBlank c then (if w.isEmpty then wordsFrom [] cs else w.reverse :: wordsFrom [] cs)
    else wordsFrom (c :: w) cs

def words (s : List Char) : List (List Char) := wordsFrom [] s

end ViewWeave.Text
