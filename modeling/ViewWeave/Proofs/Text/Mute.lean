import ViewWeave.Data.Writer
import ViewWeave.Proofs.Text.Parts
import ViewWeave.Render.Filter.Text

/-!
# Text without markup

A mute text has no character that opens a tag. What numbers and truth values are written as is mute,
and the functions on text keep a text mute.
-/

namespace ViewWeave.Text

def Mute (s : List Char) : Prop := '<' ∉ s

instance (s : List Char) : Decidable (Mute s) := inferInstanceAs (Decidable ('<' ∉ s))

@[simp] theorem mute_nil : Mute [] := List.not_mem_nil

@[simp] theorem mute_cons {c : Char} {s : List Char} : Mute (c :: s) ↔ '<' ≠ c ∧ Mute s := by
  simp [Mute]

@[simp] theorem mute_append {s t : List Char} : Mute (s ++ t) ↔ Mute s ∧ Mute t := by
  simp [Mute]

@[simp] theorem mute_reverse {s : List Char} : Mute s.reverse ↔ Mute s := by
  simp [Mute]

@[simp] theorem mute_replicate {n : Nat} {c : Char} (h : '<' ≠ c) : Mute (List.replicate n c) :=
  fun hm => h (List.eq_of_mem_replicate hm)

theorem mute_flatten {ws : List (List Char)} : Mute ws.flatten ↔ ∀ w ∈ ws, Mute w := by
  simp [Mute]

theorem Mute.mono {s t : List Char} (h : Mute s) (ht : t ⊆ s) : Mute t := fun hm => h (ht hm)

theorem Mute.take {s : List Char} (h : Mute s) (n : Nat) : Mute (s.take n) :=
  h.mono (List.take_subset n s)

theorem Mute.drop {s : List Char} (h : Mute s) (n : Nat) : Mute (s.drop n) :=
  h.mono (List.drop_subset n s)

theorem Mute.flatMap {f : Char → List Char} {s : List Char} (h : Mute s)
    (hf : ∀ c, '<' ≠ c → Mute (f c)) : Mute (s.flatMap f) := by
  intro hm
  obtain ⟨c, hc, hfc⟩ := List.mem_flatMap.mp hm
  exact hf c (fun heq => h (heq ▸ hc)) hfc

theorem Mute.intercalate {p : List Char} {ws : List (List Char)} (hp : Mute p)
    (hws : ∀ w ∈ ws, Mute w) :
    Mute (p.intercalate ws) := by
  induction ws with
  | nil => exact mute_nil
  | cons w ws ih =>
    simp only [List.mem_cons, forall_eq_or_imp] at hws
    cases ws with
    | nil => simpa [List.intercalate] using hws.1
    | cons v ws =>
      have rest := ih hws.2
      simp only [List.intercalate, List.intersperse_cons_cons, List.flatten_cons, mute_append]
        at rest ⊢
      exact ⟨hws.1, hp, rest⟩

theorem eq_of_ofNat {n : Nat} (h : '<' = Char.ofNat n) : n = 60 := by
  have code : 60 = (Char.ofNat n).toNat := congrArg Char.toNat h
  unfold Char.ofNat at code
  by_cases valid : n.isValidChar
  · rw [dif_pos valid] at code
    exact code.symm
  · rw [dif_neg valid] at code
    cases code

/-! ## Numbers and truth values -/

@[simp] theorem mute_natText (n : Nat) : Mute (Decimal.natText n) := fun h =>
  absurd (Nat.isDigit_of_mem_toDigits (by decide) (by decide) h) (by decide)

@[simp] theorem mute_intText (i : Int) : Mute (Decimal.intText i) := by
  unfold Decimal.intText
  split <;> simp

theorem mute_positional (pointZero : Bool) (d : Decimal.Digits) :
    Mute (Decimal.positional pointZero d) := by
  unfold Decimal.positional
  dsimp only
  split
  · cases pointZero <;> simp
  · split <;> simp [Mute.take, Mute.drop]

theorem mute_scientific (plus : Bool) (d : Decimal.Digits) : Mute (Decimal.scientific plus d) := by
  have point (ds : List Char) (h : Mute ds) :
      Mute (if ds.length > 1 then '.' :: ds.drop 1 else []) := by
    split
    · exact mute_cons.mpr ⟨by decide, h.drop 1⟩
    · exact mute_nil
  have sign (e : Int) : Mute (if e < 0 then ['-'] else if plus then ['+'] else []) := by
    split
    · decide
    · cases plus <;> decide
  unfold Decimal.scientific
  simp only [mute_append, mute_cons]
  exact ⟨⟨(mute_natText _).take 1, point _ (mute_natText _)⟩, by decide, sign _, mute_natText _⟩

@[simp] theorem mute_styleText (style : Decimal.Style) (x : Float) : Mute (style.text x) := by
  unfold Decimal.Style.text
  split
  · split
    · decide
    · split <;> decide
  · rename_i p _
    have signed {s : List Char} (h : Mute s) : Mute (if p.negative then '-' :: s else s) := by
      split <;> simp [h]
    refine signed ?_
    split
    · split <;> simp
    · have forms (d : Decimal.Digits) (inside : Bool) : Mute (if inside then
          Decimal.positional style.pointZero d else Decimal.scientific style.plus d) := by
        split
        · exact mute_positional _ d
        · exact mute_scientific _ d
      exact forms _ _

@[simp] theorem mute_display (n : Number) : Mute n.display := by
  cases n with
  | int i => exact mute_intText i
  | float x => exact mute_styleText _ x

@[simp] theorem mute_boolText (b : Bool) : Mute (Value.boolText b) := by
  cases b <;> decide

/-! ## Letter case -/

/-- Nothing has a bracket for its image: it is in no sequence, and a run that could reach it holds
no character beyond the first 128. -/
theorem Mute.mapCase {sequences : List (Nat × List Nat)} {runs : List (Nat × Nat × Nat × Nat)}
    (hs : ∀ x ∈ sequences, 60 ∉ x.2) (hr : ∀ r ∈ runs, r.2.1 < 128 ∨ 60 < r.2.2.2) {c : Char}
    (hc : 128 ≤ c.toNat) : Mute (Text.mapCase sequences runs c) := by
  unfold Text.mapCase
  split
  case h_1 ns hns =>
    intro h
    obtain ⟨n, hn, heq⟩ := List.mem_map.mp h
    obtain ⟨xs, ys, rfl, -⟩ := List.lookup_eq_some_iff.mp hns
    exact hs (c.toNat, ns) (by simp) (eq_of_ofNat heq.symm ▸ hn)
  case h_2 =>
    refine mute_cons.mpr ⟨fun h => ?_, mute_nil⟩
    have image := eq_of_ofNat h
    unfold applyRuns at image
    split at image
    · rename_i first last step start hf
      have run := hr _ (List.mem_of_find?_eq_some hf)
      have holds := List.find?_some hf
      simp only [Bool.and_eq_true, decide_eq_true_eq] at holds run
      omega
    · omega

theorem mute_casedChar {ascii : Char → Char} {sequences : List (Nat × List Nat)}
    {runs : List (Nat × Nat × Nat × Nat)}
    (ha : ∀ n < 128, '<' ≠ Char.ofNat n → '<' ≠ ascii (Char.ofNat n))
    (hs : ∀ x ∈ sequences, 60 ∉ x.2)
    (hr : ∀ r ∈ runs, r.2.1 < 128 ∨ 60 < r.2.2.2) {c : Char} (h : '<' ≠ c) :
    Mute (if c.toNat < 128 then [ascii c] else Text.mapCase sequences runs c) := by
  split
  · rename_i hc
    have image := ha c.toNat hc
    rw [Char.ofNat_toNat] at image
    exact mute_cons.mpr ⟨image h, mute_nil⟩
  · exact Mute.mapCase hs hr (by omega)

theorem mute_upperChar {c : Char} (h : '<' ≠ c) : Mute (upperChar c) :=
  mute_casedChar (by decide) (by decide +kernel) (by decide +kernel) h

theorem mute_lowerChar {c : Char} (h : '<' ≠ c) : Mute (lowerChar c) :=
  mute_casedChar (by decide) (by decide +kernel) (by decide +kernel) h

theorem mute_upper {s : List Char} (h : Mute s) : Mute (upper s) :=
  h.flatMap fun _ => mute_upperChar

theorem mute_lowerFrom {s : List Char} :
    ∀ {before : List Char}, Mute s → Mute (lowerFrom before s) := by
  induction s with
  | nil => simp [lowerFrom]
  | cons c cs ih =>
    intro before h
    obtain ⟨hc, hcs⟩ := mute_cons.mp h
    refine mute_append.mpr ⟨?_, ih hcs⟩
    split
    · split <;> decide
    · exact mute_lowerChar hc

theorem mute_capitalize {s : List Char} (h : Mute s) : Mute (capitalize s) := by
  cases s with
  | nil => exact h
  | cons c cs =>
    obtain ⟨hc, hcs⟩ := mute_cons.mp h
    exact mute_append.mpr ⟨mute_upperChar hc, mute_lowerFrom hcs⟩

/-! ## Pieces -/

theorem mute_replace {p q s : List Char} (hq : Mute q) (hs : Mute s) : Mute (replace p q s) :=
  hq.intercalate fun _ hw => hs.mono (splitBy_subset hw)

theorem mute_flatten_take_clusters {s : List Char} (h : Mute s) (n : Nat) :
    Mute ((clusters s).take n).flatten := by
  have whole : Mute (clusters s).flatten := by rwa [flatten_clusters]
  exact mute_flatten.mpr fun w hw => mute_flatten.mp whole w (List.mem_of_mem_take hw)

/-! ## Written text -/

theorem mute_writtenChar {c : Char} (h : '<' ≠ c) : Mute (Value.writtenChar c) := by
  have digits : ∀ n < 32, '<' ≠ hexDigit (n / 16) ∧ '<' ≠ hexDigit (n % 16) := by decide
  have low := digits c.toNat
  unfold Value.writtenChar
  split_ifs <;> simp_all

theorem mute_writtenString {s : String} (h : Mute s.toList) : Mute (Value.writtenString s) := by
  have inner := h.flatMap fun _ => mute_writtenChar
  simpa [Value.writtenString] using inner

end ViewWeave.Text

namespace ViewWeave.Filter

open Text

theorem mute_addSlashes {s : List Char} (h : Mute s) : Mute (addSlashes s) := by
  refine h.flatMap fun c hc => ?_
  split <;> simp [hc]

theorem mute_encodedByte {kept : Char → Bool} (hk : kept '<' = false) (b : UInt8) :
    Mute (encodedByte kept b) := by
  have digit : ∀ n < 16, Mute [if n < 10 then Char.ofNat (48 + n) else Char.ofNat (55 + n)] := by
    decide
  have byte : b.toNat < 256 := b.toNat_lt
  unfold encodedByte
  dsimp only
  split
  · rename_i h
    refine mute_cons.mpr ⟨fun hc => ?_, mute_nil⟩
    rw [← hc, hk] at h
    simp at h
  · simp only [mute_cons]
    exact ⟨by decide, (mute_cons.mp (digit _ (by omega))).1,
      (mute_cons.mp (digit _ (by omega))).1, mute_nil⟩

theorem mute_urlEncode {kept : Char → Bool} (hk : kept '<' = false) (s : List Char) :
    Mute (urlEncode kept s) := by
  intro h
  obtain ⟨b, -, hb⟩ := List.mem_flatMap.mp h
  exact mute_encodedByte hk b hb

end ViewWeave.Filter
