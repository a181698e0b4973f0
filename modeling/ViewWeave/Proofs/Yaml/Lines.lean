import ViewWeave.Proofs.Text.Split
import ViewWeave.Proofs.Yaml.Turns

/-!
# Tokens of lines

A text of lines, each with a key, a colon, a blank and a value, is scanned line by line into the
tokens of one block mapping, if the keys are short. At a key that is too long the scanner gives up.
-/

namespace ViewWeave.Yaml

/-! ## Lines -/

structure Line where
  key : List Char
  value : List Char

namespace Line

def source (l : Line) : List Char := l.key ++ ':' :: ' ' :: l.value

structure IsPlain (l : Line) : Prop where
  nonempty : l.key ≠ []
  key : ∀ c ∈ l.key, isKeyChar c
  value : ∀ c ∈ l.value, isWordChar c
  start : l.value.head? ≠ some '-'

/-- The key is short enough to be seen as one. -/
def IsShort (l : Line) : Prop := l.key.length ≤ 1024

instance (l : Line) : Decidable l.IsShort := inferInstanceAs (Decidable (_ ≤ _))

def stop (l : Line) (p : Place) : Place := p.along (l.key.length + 2 + l.value.length)

theorem stop_eq (l : Line) (p : Place) :
    l.stop p = (p.along (l.key.length + 1)).along (1 + l.value.length) := by
  rw [Place.along_along, stop]
  congr 1
  omega

theorem IsPlain.isWord {l : Line} (h : l.IsPlain) : IsWord l.key :=
  ⟨h.nonempty, fun c hc => isWordChar_of_isKeyChar (h.key c hc)⟩

end Line

/-! ## Their tokens -/

/-- The tokens up to the colon; the first key opens the mapping. -/
def keyTokens (opened : Bool) (w : List Char) (p : Place) : List Token :=
  (if opened then [] else [⟨.blockMappingStart, p, p⟩]) ++
    [⟨.key, p, p⟩, ⟨.scalar w .plain, p, p.along w.length⟩,
      ⟨.value, p.along w.length, p.along (w.length + 1)⟩]

def valueTokens (w : List Char) (p : Place) : List Token :=
  if w.isEmpty then [] else [⟨.scalar w .plain, p, p.along w.length⟩]

def Line.tokens (opened : Bool) (l : Line) (p : Place) : List Token :=
  keyTokens opened l.key p ++ valueTokens l.value (p.along (l.key.length + 2))

def lineTokens : Bool → Place → List Line → List Token
  | _, _, [] => []
  | opened, p, l :: ls => l.tokens opened p ++ lineTokens true (l.stop p).below ls

def placeAfter : Place → List Line → Place
  | p, [] => p
  | p, l :: ls => placeAfter (l.stop p).below ls

theorem column_placeAfter {p : Place} (start : p.column = 0) (ls : List Line) :
    (placeAfter p ls).column = 0 := by
  induction ls generalizing p with
  | nil => exact start
  | cons l ls ih => exact ih rfl

namespace Scanner

/-! ## Scalars -/

section
variable {opened : Bool} {handed : Nat} {w t : List Char} {p : Place}

theorem saveKey_idle (start : p.column = 0) : (idle opened true handed t p).saveKey =
    some { idle opened true handed t p with keys := [some ⟨handed, p, opened⟩] } := by
  obtain ⟨index, line, column⟩ := p
  subst start
  cases opened <;> rfl

variable (hw : IsWord w)
include hw

theorem scan_key (mark : atDocumentMark ⟨w ++ ':' :: ' ' :: t, p⟩ = false) (start : p.column = 0) :
    (idle opened true handed (w ++ ':' :: ' ' :: t) p).scanPlainScalar =
      some { idle opened false handed (':' :: ' ' :: t) (p.along w.length) with
        queue := [⟨.scalar w .plain, p, p.along w.length⟩]
        keys := [some ⟨handed, p, opened⟩] } := by
  have scanned (indent : Nat) := scanPlain_tight hw (t := ':' :: ' ' :: t) rfl rfl indent mark
  unfold scanPlainScalar
  rw [saveKey_idle start]
  show (scanPlain false _ ⟨w ++ ':' :: ' ' :: t, p⟩ >>= _) = _
  rw [scanned]
  rfl

theorem scan_value_line {d : Char} (hd : isWordChar d)
    (mark : atDocumentMark ⟨w ++ '\n' :: d :: t, p⟩ = false) :
    (idle true false handed (w ++ '\n' :: d :: t) p).scanPlainScalar =
      some { idle true true handed (d :: t) (p.along w.length).below with
        queue := [⟨.scalar w .plain, p, p.along w.length⟩] } := by
  unfold scanPlainScalar
  show (scanPlain false 1 ⟨w ++ '\n' :: d :: t, p⟩ >>= _) = _
  rw [scanPlain_line hw hd t Nat.one_pos mark]
  rfl

theorem scan_value_end (mark : atDocumentMark ⟨w ++ [], p⟩ = false) :
    (idle true false handed (w ++ []) p).scanPlainScalar =
      some { idle true false handed [] (p.along w.length) with
        queue := [⟨.scalar w .plain, p, p.along w.length⟩] } := by
  unfold scanPlainScalar
  show (scanPlain false 1 ⟨w ++ [], p⟩ >>= _) = _
  rw [scanPlain_tight hw rfl rfl 1 mark]
  rfl

end

/-! ## Keys -/

section
variable (opened : Bool) (handed : Nat) (w t : List Char) (p : Place)

def afterWord : Scanner :=
  { idle opened false handed (':' :: ' ' :: t) (p.along w.length) with
    queue := [⟨.scalar w .plain, p, p.along w.length⟩], keys := [some ⟨handed, p, opened⟩] }

variable {opened handed w t p}

theorem dropStale_afterWord (short : w.length ≤ 1024) :
    (afterWord opened handed w t p).dropStale = some (afterWord opened handed w t p) := by
  have fresh : KeyStart.isStale ⟨handed, p, opened⟩ (p.along w.length) = false := by
    simp [KeyStart.isStale, Place.along, short]
  unfold dropStale afterWord
  dsimp only
  rw [List.mapM_cons]
  simp [place, idle, fresh]

theorem scanValue_afterWord (start : p.column = 0) : (afterWord opened handed w t p).scanValue =
    some { idle true false handed (' ' :: t) (p.along (w.length + 1)) with
      queue := keyTokens opened w p } := by
  obtain ⟨index, line, column⟩ := p
  subst start
  unfold afterWord scanValue
  cases opened <;>
    simp [idle, insertBefore, openBlock, pushMany, push, inFlow, place, keyTokens, Input.skipMany,
      Place.along, Nat.add_assoc]

theorem leads_afterWord (hw : IsWord w) (start : p.column = 0) (key : ∀ c ∈ w, isKeyChar c) :
    Leads 1 (idle opened true handed (w ++ ':' :: ' ' :: t) p) []
      (afterWord opened handed w t p) := by
  obtain ⟨c, cs, rfl, hc⟩ := hw.exists_cons
  obtain ⟨dash, dot⟩ := ne_of_isKeyChar (key c (List.mem_cons_self ..))
  have mark : atDocumentMark ⟨c :: cs ++ ':' :: ' ' :: t, p⟩ = false := by
    unfold atDocumentMark
    rw [List.cons_append, atMark_of_ne dash, atMark_of_ne dot]
    simp
  have word := step_word (s := idle opened true handed (c :: cs ++ ':' :: ' ' :: t) p) rfl
    (dropStale_none rfl) (indent_idle_le ..) hc dash fun _ => dot
  exact leads_step rfl rfl (word.trans (scan_key hw mark start))

/-- A short word before a colon is a key. -/
theorem leads_key (hw : IsWord w) (start : p.column = 0) (key : ∀ c ∈ w, isKeyChar c)
    (short : w.length ≤ 1024) :
    Leads 6 (idle opened true handed (w ++ ':' :: ' ' :: t) p) (keyTokens opened w p)
      (idle true false (handed + (keyTokens opened w p).length) (' ' :: t)
        (p.along (w.length + 1))) := by
  have fresh : (afterWord opened handed w t p).dropStale = some (afterWord opened handed w t p) :=
    dropStale_afterWord short
  have deep : (afterWord opened handed w t p).indent ≤ (p.along w.length).column :=
    indent_idle_le opened true handed t p (p.along w.length).column
  have colon : (afterWord opened handed w t p).step = _ :=
    (step_colon rfl fresh deep rfl rfl).trans (scanValue_afterWord start)
  -- the word may be a key, so it stays in the queue until the colon tells
  have wait : (afterWord opened handed w t p).mustWait := by simp [mustWait, afterWord, idle]
  have tokens : (keyTokens opened w p).length ≤ 4 := by cases opened <;> simp [keyTokens]
  exact (((leads_afterWord hw start key).trans (leads_wait rfl fresh wait rfl colon)).trans
    (leads_handOut rfl (keyTokens opened w p))).mono (by omega)

end

/-! ## Values -/

section
variable {handed : Nat} {w t : List Char} {p : Place}

/-- A value is handed out if the scanner gets over it as a scalar, or over nothing if it is
empty. -/
theorem leads_value {keyAllowed : Bool} {rest : List Char} {q : Place}
    (chars : ∀ c ∈ w, isWordChar c) (dash : w.head? ≠ some '-')
    (scan : IsWord w → (idle true false handed (w ++ t) (p.along 1)).scanPlainScalar =
      some { idle true keyAllowed handed rest q with
        queue := [⟨.scalar w .plain, p.along 1, (p.along 1).along w.length⟩] })
    (skip : w = [] → ∀ fuel, skipBlank (fuel + 2) (idle true false handed t (p.along 1)) =
      skipBlank (rest.length + 1) (idle true keyAllowed handed rest q)) :
    Leads 2 (idle true false handed (' ' :: (w ++ t)) p) (valueTokens w (p.along 1))
      (idle true keyAllowed (handed + (valueTokens w (p.along 1)).length) rest q) := by
  have blank (fuel : Nat) (u : List Char) :
    skipBlank (fuel + 1) (idle true false handed (' ' :: u) p) =
      skipBlank (fuel + 1) (idle true false handed u (p.along 1)) :=
    skipBlank_blank (s := idle true false handed (' ' :: u) p) fuel
  cases w with
  -- nothing is handed out for an empty value: the scanner is where it would be after the gap
  | nil =>
    exact (leads_same rfl rfl rfl rfl (step_congr ((blank ..).trans (skip rfl t.length)))).mono
      (by decide)
  | cons c cs =>
    have hc := chars c (List.mem_cons_self ..)
    have solid (fuel : Nat) :=
      skipBlank_solid (s := idle true false handed (c :: cs ++ t) (p.along 1)) rfl
      (isSolid_of_isWordChar hc) fuel
    have past := step_congr ((blank _ _).trans ((solid _).trans (solid _).symm))
    have word := step_word (s := idle true false handed (c :: cs ++ t) (p.along 1)) rfl
      (dropStale_none rfl) (indent_idle_le ..) hc (by simpa using dash) (by simp)
    have scanned := past.trans (word.trans (scan ⟨List.cons_ne_nil c cs, chars⟩))
    exact (leads_step rfl rfl scanned).trans (leads_handOut rfl _)

theorem leads_value_line (chars : ∀ c ∈ w, isWordChar c) (dash : w.head? ≠ some '-') {d : Char}
    (hd : isWordChar d) :
    Leads 2 (idle true false handed (' ' :: (w ++ '\n' :: d :: t)) p) (valueTokens w (p.along 1))
      (idle true true (handed + (valueTokens w (p.along 1)).length) (d :: t)
        (p.along (1 + w.length)).below) := by
  refine leads_value chars dash (fun hw => ?scan) fun none fuel => ?skip
  case scan =>
    have column : atDocumentMark ⟨w ++ '\n' :: d :: t, p.along 1⟩ = false := by
      simp [atDocumentMark]
    rw [scan_value_line hw hd column, Place.along_along]
  case skip =>
    subst none
    exact (skipBlank_line (s := idle true false handed ('\n' :: d :: t) (p.along 1)) _).trans
      ((skipBlank_solid rfl (isSolid_of_isWordChar hd) _).trans
        (skipBlank_solid rfl (isSolid_of_isWordChar hd) _).symm)

theorem leads_value_end (chars : ∀ c ∈ w, isWordChar c) (dash : w.head? ≠ some '-') :
    Leads 2 (idle true false handed (' ' :: w) p) (valueTokens w (p.along 1))
      (idle true false (handed + (valueTokens w (p.along 1)).length) []
        (p.along (1 + w.length))) := by
  have whole : ' ' :: w = ' ' :: (w ++ []) := by rw [List.append_nil]
  rw [whole]
  refine leads_value chars dash (fun hw => ?scan) fun none fuel => ?skip
  case scan =>
    have column : atDocumentMark ⟨w ++ [], p.along 1⟩ = false := by simp [atDocumentMark]
    rw [scan_value_end hw column, Place.along_along]
  case skip =>
    subst none
    exact (skipBlank_nil (s := idle true false handed [] (p.along 1)) _).trans
      (skipBlank_nil _).symm

end

/-! ## Whole lines -/

section
variable {opened : Bool} {handed : Nat} {t : List Char} {p : Place}

theorem leads_line {l : Line} (plain : l.IsPlain) (short : l.IsShort) (start : p.column = 0)
    {d : Char} (hd : isWordChar d) :
    Leads 8 (idle opened true handed (l.source ++ '\n' :: d :: t) p) (l.tokens opened p)
      (idle true true (handed + (l.tokens opened p).length) (d :: t) (l.stop p).below) := by
  have line : Leads 8 (idle opened true handed
      (l.key ++ ':' :: ' ' :: (l.value ++ '\n' :: d :: t)) p) _ _ :=
    (leads_key plain.isWord start plain.key short).trans
      (leads_value_line plain.value plain.start hd)
  rw [Line.stop_eq]
  simpa [Line.source, Line.tokens, Nat.add_assoc] using line

theorem leads_last {l : Line} (plain : l.IsPlain) (short : l.IsShort) (start : p.column = 0) :
    Leads 8 (idle opened true handed l.source p) (l.tokens opened p)
      (idle true false (handed + (l.tokens opened p).length) [] (l.stop p)) := by
  have line : Leads 8 (idle opened true handed (l.key ++ ':' :: ' ' :: l.value) p) _ _ :=
    (leads_key plain.isWord start plain.key short).trans (leads_value_end plain.value plain.start)
  rw [Line.stop_eq]
  simpa [Line.source, Line.tokens, Nat.add_assoc] using line

theorem leads_lines {ls : List Line} (plain : ∀ l ∈ ls, l.IsPlain) (short : ∀ l ∈ ls, l.IsShort)
    (start : p.column = 0) {d : Char} (hd : isWordChar d) :
    Leads (8 * ls.length)
      (idle opened true handed (ls.flatMap (fun l => l.source ++ ['\n']) ++ d :: t) p)
      (lineTokens opened p ls)
      (idle (opened || !ls.isEmpty) true (handed + (lineTokens opened p ls).length) (d :: t)
        (placeAfter p ls)) := by
  induction ls generalizing opened handed p with
  | nil =>
    rw [List.isEmpty_nil, Bool.not_true, Bool.or_false]
    exact ⟨0, Nat.le_refl 0, fun _ => rfl⟩
  | cons l ls ih =>
    -- the next line, or what follows them all, starts with a word, so this line's value ends with
    -- the line
    obtain ⟨e, u, next, he⟩ :
        ∃ e u, ls.flatMap (fun l => l.source ++ ['\n']) ++ d :: t = e :: u ∧ isWordChar e := by
      cases ls with
      | nil => exact ⟨d, t, rfl, hd⟩
      | cons m ms =>
        obtain ⟨e, es, he, hc⟩ := (plain m (by simp)).isWord.exists_cons
        exact ⟨e, _, by rw [List.flatMap_cons, Line.source, he]; rfl, hc⟩
    have first : Leads 8 (idle opened true handed (l.source ++ '\n' :: e :: u) p) _ _ :=
      leads_line (plain l (List.mem_cons_self ..)) (short l (List.mem_cons_self ..)) start he
    have rest :
        Leads _ (idle true true (handed + (l.tokens opened p).length) _ (l.stop p).below) _ _ :=
      ih (fun m hm => plain m (List.mem_cons_of_mem l hm))
        (fun m hm => short m (List.mem_cons_of_mem l hm)) rfl
    rw [← next] at first
    have all := (first.trans rest).mono (b := 8 * (l :: ls).length) (by simp; omega)
    simpa [lineTokens, placeAfter, Nat.add_assoc] using all

/-! ## The last token -/

theorem Leads.run_eq {b fuel : Nat} {s s' : Scanner} {ts : List Token} (h : Leads b s ts s')
    (silent : ∀ fuel, s'.run fuel = []) (enough : b < fuel) : s.run fuel = ts := by
  obtain ⟨n, le, run_eq⟩ := h
  have rest := run_eq (fuel - n - 1)
  rw [silent, List.append_nil] at rest
  rw [← rest]
  congr 1
  omega

theorem leads_end (keyAllowed : Bool) (handed : Nat) (p : Place) : ∃ q s,
    Leads 3 (idle true keyAllowed handed [] p) [⟨.blockEnd, q, q⟩, ⟨.streamEnd, q, q⟩] s ∧
      ∀ fuel, s.run fuel = [] := by
  obtain ⟨q, step⟩ := step_end keyAllowed handed p
  have closed := leads_handOut (s := { idle false false handed [] q with ended := true }) rfl
    [⟨.blockEnd, q, q⟩, ⟨.streamEnd, q, q⟩]
  refine ⟨q, _, (leads_step rfl rfl step).trans closed, fun fuel => ?_⟩
  cases fuel <;> rfl

/-- At a key that is too long the scanner stops: in the mapping at once, before it at the colon. -/
theorem leads_long {w : List Char} (hw : IsWord w) (start : p.column = 0)
    (key : ∀ c ∈ w, isKeyChar c)
    (long : 1024 < w.length) : ∃ s, Leads 2 (idle opened true handed (w ++ ':' :: ' ' :: t) p)
      (if opened then [] else [⟨.scalar w .plain, p, p.along w.length⟩]) s ∧
      ∀ fuel, s.run fuel = [] := by
  have word : Leads 1 (idle opened true handed (w ++ ':' :: ' ' :: t) p) [] _ :=
    leads_afterWord hw start key
  have stale : KeyStart.isStale ⟨handed, p, opened⟩ (p.along w.length) := by
    simp [KeyStart.isStale, Place.along, long]
  cases opened with
  | true =>
    have given : (afterWord true handed w t p).dropStale = none := by
      simp [dropStale, afterWord, idle, place, stale]
    refine ⟨_, word.mono (by decide), fun fuel => ?_⟩
    cases fuel with
    | zero => rfl
    | succ fuel =>
      rw [run, given]
      rfl
  | false =>
    have given : (afterWord false handed w t p).dropStale =
        some { afterWord false handed w t p with keys := [none] } := by
      simp [dropStale, afterWord, idle, place, stale]
    have handedOut : Leads 1 (afterWord false handed w t p)
      [⟨.scalar w .plain, p, p.along w.length⟩]
        (idle false false (handed + 1) (':' :: ' ' :: t) (p.along w.length)) := by
      refine ⟨1, Nat.le_refl 1, fun fuel => ?_⟩
      rw [run, given]
      rfl
    have colon : (idle false false (handed + 1) (':' :: ' ' :: t) (p.along w.length)).step = none :=
      step_colon rfl (dropStale_none rfl) (indent_idle_le ..) rfl rfl
    refine ⟨_, word.trans handedOut, fun fuel => ?_⟩
    cases fuel with
    | zero => rfl
    | succ fuel =>
      rw [run, colon]
      rfl

end

end Scanner

/-! ## Texts -/

def linesText (ls : List Line) : List Char := List.intercalate ['\n'] (ls.map Line.source)

theorem linesText_cons (l : Line) (ls : List Line) :
    linesText (l :: ls) = l.source ++ ls.flatMap fun l => '\n' :: l.source := by
  induction ls generalizing l with
  | nil => simp [linesText, List.intercalate]
  | cons m ls ih =>
    have joined : linesText (l :: m :: ls) = l.source ++ '\n' :: linesText (m :: ls) :=
      Text.intercalate_cons (by simp)
    rw [joined, ih m]
    rfl

theorem linesText_append_cons (before : List Line) (l : Line) (after : List Line) :
    linesText (before ++ l :: after) =
      before.flatMap (fun l => l.source ++ ['\n']) ++
      (l.source ++ after.flatMap fun l => '\n' :: l.source) := by
  induction before with
  | nil => exact linesText_cons l after
  | cons m before ih =>
    have joined : linesText (m :: before ++ l :: after) =
        m.source ++ '\n' :: linesText (before ++ l :: after) :=
      Text.intercalate_cons (by simp)
    rw [joined, ih]
    simp

theorem length_le_linesText (ls : List Line) : ls.length ≤ (linesText ls).length := by
  have parts : ∀ w ∈ ls.map Line.source, w ≠ [] := by simp [Line.source]
  have enough := Text.length_le_intercalate (c := '\n') parts
  rwa [List.length_map] at enough

theorem lineTokens_append (opened : Bool) (p : Place) (ls ms : List Line) :
    lineTokens opened p (ls ++ ms) =
    lineTokens opened p ls ++ lineTokens (opened || !ls.isEmpty) (placeAfter p ls) ms := by
  induction ls generalizing opened p with
  | nil => simp [lineTokens, placeAfter]
  | cons l ls ih => simp [lineTokens, placeAfter, ih]

theorem Line.IsPlain.isAllowed {l : Line} (h : l.IsPlain) : ∀ c ∈ l.source, isAllowed c := by
  intro c hc
  rw [source, List.mem_append, List.mem_cons, List.mem_cons] at hc
  rcases hc with key | rfl | rfl | value
  · exact isAllowed_of_isWordChar (h.isWord.chars c key)
  · rfl
  · rfl
  · exact isAllowed_of_isWordChar (h.value c value)

/-- The scanner comes to each line that has only short keys before it. -/
theorem leads_to {before : List Line} (plain : ∀ l ∈ before, l.IsPlain)
    (short : ∀ l ∈ before, l.IsShort) {l : Line} (hl : l.IsPlain) (after : List Line) :
    Scanner.Leads (8 * before.length)
      (.idle false true 0 (linesText (before ++ l :: after)) ⟨0, 0, 0⟩)
      (lineTokens false ⟨0, 0, 0⟩ before)
      (.idle (!before.isEmpty) true (0 + (lineTokens false ⟨0, 0, 0⟩ before).length)
        (l.source ++ after.flatMap fun l => '\n' :: l.source) (placeAfter ⟨0, 0, 0⟩ before)) := by
  obtain ⟨c, cs, key, hc⟩ := hl.isWord.exists_cons
  rw [linesText_append_cons, Line.source, key]
  exact Scanner.leads_lines plain short rfl hc

section
variable {ls : List Line} (plain : ∀ l ∈ ls, l.IsPlain)
include plain

theorem tokens_linesText (some : ls ≠ []) : tokens (linesText ls) =
    (Scanner.idle false true 0 (linesText ls) ⟨0, 0, 0⟩).run (8 * (linesText ls).length + 64) := by
  obtain ⟨l, ls, rfl⟩ := List.exists_cons_of_ne_nil some
  have first := plain l (List.mem_cons_self ..)
  obtain ⟨c, cs, key, -⟩ := first.isWord.exists_cons
  have mark : c ≠ '\uFEFF' := by
    rintro rfl
    exact absurd (first.key _ (key ▸ List.mem_cons_self ..)) (by decide)
  have allowed : (linesText (l :: ls)).all isAllowed := by
    rw [linesText_cons, List.all_append, List.all_flatMap, Bool.and_eq_true, List.all_eq_true,
      List.all_eq_true]
    refine ⟨first.isAllowed, fun m hm => ?_⟩
    rw [List.all_cons, Bool.and_eq_true, List.all_eq_true]
    exact ⟨rfl, (plain m (List.mem_cons_of_mem l hm)).isAllowed⟩
  obtain ⟨t, text⟩ : ∃ t, linesText (l :: ls) = c :: t := by
    rw [linesText_cons, Line.source, key]
    exact ⟨_, rfl⟩
  rw [text] at allowed ⊢
  unfold tokens
  split
  · rename_i heq
    exact absurd (List.cons.inj heq).1 mark
  · rw [if_pos allowed]
    rfl

/-- **Tokens of lines.** Lines with short keys are scanned one after another as the pairs of one
mapping. -/
theorem tokens_lines (short : ∀ l ∈ ls, l.IsShort) (some : ls ≠ []) : ∃ q,
    tokens (linesText ls) =
      lineTokens false ⟨0, 0, 0⟩ ls ++ [⟨.blockEnd, q, q⟩, ⟨.streamEnd, q, q⟩] := by
  rw [tokens_linesText plain some]
  have enough := length_le_linesText ls
  obtain rfl | ⟨ls, l, rfl⟩ := List.eq_nil_or_concat' ls
  · exact absurd rfl some
  have hl := plain l (by simp)
  have reach := leads_to (fun m hm => plain m (List.mem_append_left _ hm))
    (fun m hm => short m (List.mem_append_left _ hm)) hl []
  rw [List.flatMap_nil, List.append_nil] at reach
  have last := reach.trans (Scanner.leads_last hl (short l (by simp)) (column_placeAfter rfl ls))
  obtain ⟨q, s, stop, silent⟩ :=
    Scanner.leads_end false (0 + (lineTokens false ⟨0, 0, 0⟩ ls).length +
    (l.tokens (!ls.isEmpty) (placeAfter ⟨0, 0, 0⟩ ls)).length) (l.stop (placeAfter ⟨0, 0, 0⟩ ls))
  refine ⟨q, ((last.trans stop).run_eq silent ?_).trans ?_⟩
  · rw [List.length_append, List.length_singleton] at enough
    omega
  · rw [lineTokens_append]
    simp [lineTokens]

/-- The tokens end at a key that is too long. -/
theorem tokens_long {before after : List Line} {l : Line} (hls : ls = before ++ l :: after)
    (short : ∀ m ∈ before, m.IsShort) (long : ¬l.IsShort) : ∃ q,
    tokens (linesText ls) = lineTokens false ⟨0, 0, 0⟩ before ++
      if before.isEmpty then [⟨.scalar l.key .plain, ⟨0, 0, 0⟩, q⟩] else [] := by
  subst hls
  rw [tokens_linesText plain (by simp)]
  have enough := length_le_linesText (before ++ l :: after)
  have hl := plain l (by simp)
  have reach := leads_to (fun m hm => plain m (List.mem_append_left _ hm)) short hl after
  rw [Line.source, List.append_assoc] at reach
  have start : (placeAfter ⟨0, 0, 0⟩ before).column = 0 := column_placeAfter rfl before
  obtain ⟨s, stop, silent⟩ : ∃ s, Scanner.Leads 2 (.idle (!before.isEmpty) true _
      (l.key ++ ':' :: ' ' :: (l.value ++ after.flatMap fun l => '\n' :: l.source)) _) _ s ∧
      ∀ fuel, s.run fuel = [] :=
    Scanner.leads_long hl.isWord start hl.key (Nat.lt_of_not_le long)
  refine ⟨(placeAfter ⟨0, 0, 0⟩ before).along l.key.length,
    ((reach.trans stop).run_eq silent ?_).trans ?_⟩
  · rw [List.length_append] at enough
    omega
  · cases before with
    | nil => rfl
    | cons m before => rfl

end

end ViewWeave.Yaml
