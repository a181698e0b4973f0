import ViewWeave.Text.CaseTable

/-!
# Letter case

Full case mappings of text. A sigma at the end of a word has a lower case form of its own.
-/

namespace ViewWeave.Text

def applyRuns (runs : List (Nat × Nat × Nat × Nat)) (n : Nat) : Nat :=
  match runs.find? fun (first, last, step, _) =>
      first ≤ n && n ≤ last && (n - first) % step == 0 with
  | some (first, _, _, image) => image + (n - first)
  | none => n

/-- The characters that replace `c`: its sequence if it has one, else its image under the runs. -/
def mapCase (sequences : List (Nat × List Nat)) (runs : List (Nat × Nat × Nat × Nat)) (c : Char) :
    List Char :=
  match sequences.lookup c.toNat with
  | some ns => ns.map Char.ofNat
  | none => [Char.ofNat (applyRuns runs c.toNat)]

def upperChar (c : Char) : List Char :=
  if c.toNat < 128 then [c.toUpper] else mapCase upperSequences upperRuns c

/-- The lower case of one character, its neighbours aside. -/
def lowerChar (c : Char) : List Char :=
  if c.toNat < 128 then [c.toLower] else mapCase lowerSequences lowerRuns c

/-- Whether the first character of `s` that is not passed over has case. -/
def startsCased (s : List Char) : Bool :=
  match s.dropWhile (inRanges caseIgnorableRanges) with
  | c :: _ => inRanges casedRanges c
  | [] => false

def upper (s : List Char) : List Char := s.flatMap upperChar

/-- The lower case of a text whose characters before it are `before`, the nearest first. -/
def lowerFrom (before : List Char) : List Char → List Char
  | [] => []
  | c :: cs =>
    (if c == 'Σ' then [if startsCased before && !startsCased cs then 'ς' else 'σ']
      else lowerChar c) ++ lowerFrom (c :: before) cs

def lower (s : List Char) : List Char := lowerFrom [] s

def capitalize : List Char → List Char
  | [] => []
  | c :: cs => upperChar c ++ lower cs

end ViewWeave.Text
