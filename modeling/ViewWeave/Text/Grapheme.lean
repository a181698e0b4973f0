import ViewWeave.Text.GraphemeTable

/-!
# Grapheme clusters

Text is counted and cut in clusters: what a reader takes for one character. A cluster ends
wherever none of the joining rules holds between two characters.
-/

namespace ViewWeave.Text

inductive ClusterClass
  | carriageReturn | lineFeed | control | extend | joiner | spacing | prepend | regional
  | leading | vowel | trailing | leadingVowel | leadingVowelTrailing | other
  deriving DecidableEq, Repr

def hangulClass? (n : Nat) : Option ClusterClass :=
  if (0x1100 ≤ n ∧ n ≤ 0x115F) ∨ (0xA960 ≤ n ∧ n ≤ 0xA97C) then some .leading
  else if (0x1160 ≤ n ∧ n ≤ 0x11A7) ∨ (0xD7B0 ≤ n ∧ n ≤ 0xD7C6) then some .vowel
  else if (0x11A8 ≤ n ∧ n ≤ 0x11FF) ∨ (0xD7CB ≤ n ∧ n ≤ 0xD7FB) then some .trailing
  else if 0xAC00 ≤ n ∧ n ≤ 0xD7A3 then
    some (if (n - 0xAC00) % 28 = 0 then .leadingVowel else .leadingVowelTrailing)
  else none

def clusterClass (c : Char) : ClusterClass :=
  if c = '\r' then .carriageReturn
  else if c = '\n' then .lineFeed
  else if 32 ≤ c.toNat ∧ c.toNat < 127 then .other
  else if c.toNat = 0x200D then .joiner
  else if 0x1F1E6 ≤ c.toNat ∧ c.toNat ≤ 0x1F1FF then .regional
  else
    match hangulClass? c.toNat with
    | some k => k
    | none =>
      if inRanges controlRanges c then .control
      else if inRanges extendRanges c then .extend
      else if inRanges spacingRanges c then .spacing
      else if inRanges prependRanges c then .prepend
      else .other

structure ClusterState where
  last : Char
  /-- Number of regional indicators at the end of the cluster. -/
  regionals : Nat
  /-- A pictograph followed by marks only. -/
  pictograph : Bool
  /-- A pictograph, marks and a joiner. -/
  joined : Bool
  /-- A consonant followed by marks only. -/
  consonant : Bool
  /-- One of those marks was a linker. -/
  linked : Bool

def ClusterState.start (c : Char) : ClusterState where
  last := c
  regionals := if clusterClass c = .regional then 1 else 0
  pictograph := inRanges pictographRanges c
  joined := false
  consonant := inRanges conjunctConsonantRanges c
  linked := false

def ClusterState.next (s : ClusterState) (c : Char) : ClusterState :=
  let k := clusterClass c
  let mark := k = .extend ∨ k = .joiner
  { last := c
    regionals := if k = .regional then s.regionals + 1 else 0
    pictograph := inRanges pictographRanges c || (s.pictograph && k = .extend)
    joined := s.pictograph && k = .joiner
    consonant := inRanges conjunctConsonantRanges c || (s.consonant && mark)
    linked := s.consonant && !inRanges conjunctConsonantRanges c && mark &&
      (s.linked || inRanges conjunctLinkerRanges c) }

/-- Whether a character of class `k` after one of class `j` stays in a Hangul syllable. -/
def joinsHangul : ClusterClass → ClusterClass → Bool
  | .leading, .leading | .leading, .vowel | .leading, .leadingVowel
  | .leading, .leadingVowelTrailing => true
  | .leadingVowel, .vowel | .leadingVowel, .trailing | .vowel, .vowel | .vowel, .trailing => true
  | .leadingVowelTrailing, .trailing | .trailing, .trailing => true
  | _, _ => false

def ClusterClass.breaks : ClusterClass → Bool
  | .carriageReturn | .lineFeed | .control => true
  | _ => false

def ClusterState.joins (s : ClusterState) (c : Char) : Bool :=
  let j := clusterClass s.last
  let k := clusterClass c
  if j = .carriageReturn ∧ k = .lineFeed then true
  else if j.breaks || k.breaks then false
  else
    joinsHangul j k || k = .extend || k = .joiner || k = .spacing || j = .prepend ||
    (s.linked && inRanges conjunctConsonantRanges c) ||
    (s.joined && inRanges pictographRanges c) ||
    (k = .regional && s.regionals % 2 = 1)

/-- The clusters of the rest of a text, the first of them begun with the reverse of `w`. -/
def clustersFrom (w : List Char) (st : ClusterState) : List Char → List (List Char)
  | [] => [w.reverse]
  | c :: cs =>
    if st.joins c then clustersFrom (c :: w) (st.next c) cs
    else w.reverse :: clustersFrom [c] (.start c) cs

def clusters : List Char → List (List Char)
  | [] => []
  | c :: cs => clustersFrom [c] (.start c) cs

theorem flatten_clustersFrom (w : List Char) (st : ClusterState) (s : List Char) :
    (clustersFrom w st s).flatten = w.reverse ++ s := by
  induction s generalizing w st with
  | nil => simp [clustersFrom]
  | cons c cs ih => by_cases h : st.joins c <;> simp [clustersFrom, h, ih]

/-- Cutting a text into clusters loses nothing. -/
theorem flatten_clusters (s : List Char) : (clusters s).flatten = s := by
  cases s with
  | nil => rfl
  | cons c cs => simp [clusters, flatten_clustersFrom]

end ViewWeave.Text
