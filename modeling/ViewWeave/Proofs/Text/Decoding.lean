import ViewWeave.Proofs.Text.ByteOrder
import Mathlib.Data.List.TakeWhile

/-!
# Reading back the bytes of a text

The bytes of a text are well formed, and reading them gives the text again. No other bytes are read
as a text: a spelling of a character that is longer than it needs to be is refused.
-/

namespace ViewWeave.Text

/-! ## First bytes -/

theorem leadByte?_ofNat {n : Nat} (h : n < 256) : leadByte? (UInt8.ofNat n) =
    if 0xC2 ≤ n ∧ n ≤ 0xDF then some (0x80, 0xBF, 2)
    else if n = 0xE0 then some (0xA0, 0xBF, 3)
    else if 0xE1 ≤ n ∧ n ≤ 0xEC then some (0x80, 0xBF, 3)
    else if n = 0xED then some (0x80, 0x9F, 3)
    else if 0xEE ≤ n ∧ n ≤ 0xEF then some (0x80, 0xBF, 3)
    else if n = 0xF0 then some (0x90, 0xBF, 4)
    else if 0xF1 ≤ n ∧ n ≤ 0xF3 then some (0x80, 0xBF, 4)
    else if n = 0xF4 then some (0x80, 0x8F, 4)
    else none := by
  simp [leadByte?, UInt8.le_iff_toNat_le, ← UInt8.toNat_inj, Nat.mod_eq_of_lt h]

theorem isTail_ofNat (n : Nat) : isTail (UInt8.ofNat (n % 64 + 128)) = true := by
  have h : n % 64 + 128 < 256 := by omega
  simp [isTail, UInt8.le_iff_toNat_le, Nat.mod_eq_of_lt h]
  omega

/-- A sequence of bytes is read as one character if its second byte is in the range that the first
one asks for and all others are tails. -/
theorem decodeOne_sequence {a b low high n : Nat} (ha : 0x80 ≤ a) (ha' : a < 256)
    (lead : leadByte? (UInt8.ofNat a) = some (UInt8.ofNat low, UInt8.ofNat high, n))
    (hlow : low ≤ b)
    (hhigh : b ≤ high) (hb : high < 256) {tails : List UInt8} (ht : ∀ t ∈ tails, isTail t = true)
    (hn : tails.length = n - 2) (rest : List UInt8) :
    decodeOne (UInt8.ofNat a) (UInt8.ofNat b :: (tails ++ rest)) =
      .ok (charOfBytes (UInt8.ofNat a :: UInt8.ofNat b :: tails), n) := by
  have taken : ((tails ++ rest).take (n - 2)).takeWhile isTail = tails := by
    rw [← hn, List.take_left]
    exact List.takeWhile_eq_self_iff.mpr ht
  have large : ¬UInt8.ofNat a < 0x80 := by
    simpa [UInt8.lt_iff_toNat_lt, Nat.mod_eq_of_lt ha'] using ha
  have inRange : (UInt8.ofNat low ≤ UInt8.ofNat b) ∧ UInt8.ofNat b ≤ UInt8.ofNat high := by
    rw [UInt8.le_iff_toNat_le, UInt8.le_iff_toNat_le]
    simp only [UInt8.toNat_ofNat']
    omega
  unfold decodeOne
  rw [if_neg large, lead]
  dsimp only
  rw [taken, if_pos hn]
  simp [inRange]

/-! ## Characters -/

theorem decodeOne_one {v : Nat} (h : v ≤ 0x7f) (rest : List UInt8) :
    decodeOne (UInt8.ofNat v) rest = .ok (Char.ofNat v, 1) := by
  have byte : v % 256 = v := by omega
  have small : UInt8.ofNat v < 0x80 := by
    simpa [UInt8.lt_iff_toNat_lt, byte] using Nat.lt_succ_of_le h
  unfold decodeOne
  rw [if_pos small, UInt8.toNat_ofNat', byte]

theorem decodeOne_two {v : Nat} (h1 : 0x7f < v) (h2 : v ≤ 0x7ff) (rest : List UInt8) :
    decodeOne (UInt8.ofNat (v / 64 % 32 + 192)) (UInt8.ofNat (v % 64 + 128) :: rest) =
      .ok (Char.ofNat v, 2) := by
  have lead : leadByte? (UInt8.ofNat (v / 64 % 32 + 192)) =
      some (UInt8.ofNat 0x80, UInt8.ofNat 0xBF, 2) := by
    rw [leadByte?_ofNat (by omega), if_pos (by omega)]
    rfl
  have read := @decodeOne_sequence _ (v % 64 + 128) _ _ _ (by omega) (by omega) lead (by omega)
    (by omega) (by omega) [] (by simp) rfl rest
  have number : (v / 64 % 32 + 192) % 256 % 32 * 64 + (v % 64 + 128) % 256 % 64 = v := by omega
  rw [List.nil_append] at read
  rw [read]
  simp only [charOfBytes, UInt8.toNat_ofNat', number]

theorem decodeOne_three {v : Nat} (h1 : 0x7ff < v) (h2 : v ≤ 0xffff) (hv : v < 0xD800 ∨ 0xDFFF < v)
    (rest : List UInt8) :
    decodeOne (UInt8.ofNat (v / 4096 % 16 + 224))
      (UInt8.ofNat (v / 64 % 64 + 128) :: UInt8.ofNat (v % 64 + 128) :: rest) =
        .ok (Char.ofNat v, 3) := by
  obtain ⟨low, high, lead, hlow, hhigh, hb⟩ : ∃ low high : Nat,
      leadByte? (UInt8.ofNat (v / 4096 % 16 + 224)) = some (UInt8.ofNat low, UInt8.ofNat high, 3) ∧
        low ≤ v / 64 % 64 + 128 ∧ v / 64 % 64 + 128 ≤ high ∧ high < 256 := by
    rw [leadByte?_ofNat (by omega), if_neg (by omega)]
    split
    · exact ⟨0xA0, 0xBF, rfl, by omega, by omega, by omega⟩
    split
    · exact ⟨0x80, 0xBF, rfl, by omega, by omega, by omega⟩
    split
    · exact ⟨0x80, 0x9F, rfl, by omega, by omega, by omega⟩
    rw [if_pos (by omega)]
    exact ⟨0x80, 0xBF, rfl, by omega, by omega, by omega⟩
  have read := decodeOne_sequence (by omega) (by omega) lead hlow hhigh hb
    (List.forall_mem_singleton.mpr (isTail_ofNat v)) rfl rest
  have number : (v / 4096 % 16 + 224) % 256 % 16 * 4096 + (v / 64 % 64 + 128) % 256 % 64 * 64 +
      (v % 64 + 128) % 256 % 64 = v := by omega
  rw [List.singleton_append] at read
  rw [read]
  simp only [charOfBytes, UInt8.toNat_ofNat', number]

theorem decodeOne_four {v : Nat} (h1 : 0xffff < v) (h2 : v ≤ 0x10FFFF) (rest : List UInt8) :
    decodeOne (UInt8.ofNat (v / 262144 % 8 + 240))
      (UInt8.ofNat (v / 4096 % 64 + 128) :: UInt8.ofNat (v / 64 % 64 + 128) ::
        UInt8.ofNat (v % 64 + 128) :: rest) = .ok (Char.ofNat v, 4) := by
  obtain ⟨low, high, lead, hlow, hhigh, hb⟩ : ∃ low high : Nat,
      leadByte? (UInt8.ofNat (v / 262144 % 8 + 240)) = some (UInt8.ofNat low, UInt8.ofNat high, 4) ∧
        low ≤ v / 4096 % 64 + 128 ∧ v / 4096 % 64 + 128 ≤ high ∧ high < 256 := by
    rw [leadByte?_ofNat (by omega), if_neg (by omega), if_neg (by omega), if_neg (by omega),
      if_neg (by omega), if_neg (by omega)]
    split
    · exact ⟨0x90, 0xBF, rfl, by omega, by omega, by omega⟩
    split
    · exact ⟨0x80, 0xBF, rfl, by omega, by omega, by omega⟩
    rw [if_pos (by omega)]
    exact ⟨0x80, 0x8F, rfl, by omega, by omega, by omega⟩
  have read := decodeOne_sequence (by omega) (by omega) lead hlow hhigh hb
    (List.forall_mem_cons.mpr
      ⟨isTail_ofNat (v / 64), List.forall_mem_singleton.mpr (isTail_ofNat v)⟩) rfl rest
  have number : (v / 262144 % 8 + 240) % 256 % 8 * 262144 +
    (v / 4096 % 64 + 128) % 256 % 64 * 4096 +
      (v / 64 % 64 + 128) % 256 % 64 * 64 + (v % 64 + 128) % 256 % 64 = v := by omega
  rw [List.cons_append, List.singleton_append] at read
  rw [read]
  simp only [charOfBytes, UInt8.toNat_ofNat', number]

theorem decodeOne_encode (c : Char) (rest : List UInt8) : ∃ a bs,
    String.utf8EncodeChar c = a :: bs ∧ decodeOne a (bs ++ rest) = .ok (c, bs.length + 1) := by
  have hc := char_toNat_le c
  have hv := c.valid
  simp only [UInt32.isValidChar, Nat.isValidChar] at hv
  have back : Char.ofNat c.val.toNat = c := Char.ofNat_toNat c
  unfold String.utf8EncodeChar
  generalize c.val.toNat = v at *
  subst back
  dsimp only
  by_cases h1 : v ≤ 0x7f
  · rw [if_pos h1]
    exact ⟨_, _, rfl, decodeOne_one h1 _⟩
  by_cases h2 : v ≤ 0x7ff
  · rw [if_neg h1, if_pos h2]
    exact ⟨_, _, rfl, decodeOne_two (by omega) h2 _⟩
  by_cases h3 : v ≤ 0xffff
  · rw [if_neg h1, if_neg h2, if_pos h3]
    exact ⟨_, _, rfl, decodeOne_three (by omega) h3 (by omega) _⟩
  · rw [if_neg h1, if_neg h2, if_neg h3]
    exact ⟨_, _, rfl, decodeOne_four (by omega) hc _⟩

/-! ## Sequences that are read -/

theorem ranges_of_leadByte? {a b low high : UInt8} {n : Nat} (h : leadByte? a = some (low, high, n))
    (hlow : low ≤ b) (hhigh : b ≤ high) : (0x80 ≤ b.toNat ∧ b.toNat ≤ 0xBF) ∧
      (n = 2 ∧ 0xC2 ≤ a.toNat ∧ a.toNat ≤ 0xDF ∨
        n = 3 ∧ 0xE0 ≤ a.toNat ∧ a.toNat ≤ 0xEF ∧ (a.toNat = 0xE0 → 0xA0 ≤ b.toNat) ∧
        (a.toNat = 0xED → b.toNat ≤ 0x9F) ∨
        n = 4 ∧ 0xF0 ≤ a.toNat ∧ a.toNat ≤ 0xF4 ∧ (a.toNat = 0xF0 → 0x90 ≤ b.toNat) ∧
          (a.toNat = 0xF4 → b.toNat ≤ 0x8F)) := by
  rw [UInt8.le_iff_toNat_le] at hlow hhigh
  rw [← UInt8.ofNat_toNat (x := a), leadByte?_ofNat a.toNat_lt] at h
  split_ifs at h <;> cases h <;> simp only [UInt8.reduceToNat] at hlow hhigh <;> omega

theorem encode_ofNat {v : Nat} (h : v.isValidChar) : String.utf8EncodeChar (Char.ofNat v) =
    if v ≤ 0x7f then [UInt8.ofNat v]
    else if v ≤ 0x7ff then [UInt8.ofNat (v / 64 % 32 + 192), UInt8.ofNat (v % 64 + 128)]
    else if v ≤ 0xffff then
      [UInt8.ofNat (v / 4096 % 16 + 224), UInt8.ofNat (v / 64 % 64 + 128),
        UInt8.ofNat (v % 64 + 128)]
    else
      [UInt8.ofNat (v / 262144 % 8 + 240), UInt8.ofNat (v / 4096 % 64 + 128),
        UInt8.ofNat (v / 64 % 64 + 128), UInt8.ofNat (v % 64 + 128)] := by
  have value : (Char.ofNat v).val.toNat = v := by
    unfold Char.ofNat
    rw [dif_pos h]
    rfl
  unfold String.utf8EncodeChar
  rw [value]

theorem isTail_iff {b : UInt8} : isTail b = true ↔ 0x80 ≤ b.toNat ∧ b.toNat ≤ 0xBF := by
  simp [isTail, UInt8.le_iff_toNat_le]

theorem ofNat_eq {b : UInt8} {v : Nat} (h : v = b.toNat) : UInt8.ofNat v = b := by
  rw [h, UInt8.ofNat_toNat]

theorem encode_charOfBytes_two {a b : UInt8} (ha : 0xC2 ≤ a.toNat ∧ a.toNat ≤ 0xDF)
    (hb : 0x80 ≤ b.toNat ∧ b.toNat ≤ 0xBF) :
    String.utf8EncodeChar (charOfBytes [a, b]) = [a, b] := by
  unfold charOfBytes
  rw [encode_ofNat (by unfold Nat.isValidChar; omega), if_neg (by omega), if_pos (by omega),
    @ofNat_eq a _ (by omega), @ofNat_eq b _ (by omega)]

theorem encode_charOfBytes_three {a b c : UInt8} (ha : 0xE0 ≤ a.toNat ∧ a.toNat ≤ 0xEF)
    (hb : 0x80 ≤ b.toNat ∧ b.toNat ≤ 0xBF) (hc : 0x80 ≤ c.toNat ∧ c.toNat ≤ 0xBF)
    (first : a.toNat = 0xE0 → 0xA0 ≤ b.toNat) (gap : a.toNat = 0xED → b.toNat ≤ 0x9F) :
    String.utf8EncodeChar (charOfBytes [a, b, c]) = [a, b, c] := by
  unfold charOfBytes
  rw [encode_ofNat (by unfold Nat.isValidChar; omega), if_neg (by omega), if_neg (by omega),
    if_pos (by omega), @ofNat_eq a _ (by omega), @ofNat_eq b _ (by omega), @ofNat_eq c _ (by omega)]

theorem encode_charOfBytes_four {a b c d : UInt8} (ha : 0xF0 ≤ a.toNat ∧ a.toNat ≤ 0xF4)
    (hb : 0x80 ≤ b.toNat ∧ b.toNat ≤ 0xBF) (hc : 0x80 ≤ c.toNat ∧ c.toNat ≤ 0xBF)
    (hd : 0x80 ≤ d.toNat ∧ d.toNat ≤ 0xBF)
    (first : a.toNat = 0xF0 → 0x90 ≤ b.toNat) (last : a.toNat = 0xF4 → b.toNat ≤ 0x8F) :
    String.utf8EncodeChar (charOfBytes [a, b, c, d]) = [a, b, c, d] := by
  unfold charOfBytes
  rw [encode_ofNat (by unfold Nat.isValidChar; omega), if_neg (by omega), if_neg (by omega),
    if_neg (by omega), @ofNat_eq a _ (by omega), @ofNat_eq b _ (by omega), @ofNat_eq c _ (by omega),
    @ofNat_eq d _ (by omega)]

theorem encode_charOfBytes {a b low high : UInt8} {n : Nat}
    (lead : leadByte? a = some (low, high, n))
    (hlow : low ≤ b) (hhigh : b ≤ high) {tails : List UInt8} (ht : ∀ t ∈ tails, isTail t = true)
    (hn : tails.length = n - 2) :
    2 ≤ n ∧ String.utf8EncodeChar (charOfBytes (a :: b :: tails)) = a :: b :: tails := by
  obtain ⟨second, two | three | four⟩ := ranges_of_leadByte? lead hlow hhigh
  · obtain ⟨rfl, first⟩ := two
    rw [List.length_eq_zero_iff.mp hn]
    exact ⟨Nat.le_refl _, encode_charOfBytes_two first second⟩
  · obtain ⟨rfl, hge, hle, least, gap⟩ := three
    obtain ⟨c, rfl⟩ := List.length_eq_one_iff.mp hn
    have hc := isTail_iff.mp (ht c (by simp))
    exact ⟨by omega, encode_charOfBytes_three ⟨hge, hle⟩ second hc least gap⟩
  · obtain ⟨rfl, hge, hle, least, greatest⟩ := four
    obtain ⟨c, d, rfl⟩ := List.length_eq_two.mp hn
    have hc := isTail_iff.mp (ht c (by simp))
    have hd := isTail_iff.mp (ht d (by simp))
    exact ⟨by omega, encode_charOfBytes_four ⟨hge, hle⟩ second hc hd least greatest⟩

/-- A character is read from a single byte, or from a first byte, one in the range that this asks
for, and tails. -/
theorem decodeOne_cases {a : UInt8} {bs : List UInt8} {c : Char} {n : Nat}
    (h : decodeOne a bs = .ok (c, n)) :
    (a.toNat < 0x80 ∧ c = Char.ofNat a.toNat ∧ n = 1) ∨
      ∃ low high b tails rest, leadByte? a = some (low, high, n) ∧ low ≤ b ∧ b ≤ high ∧
        (∀ t ∈ tails, isTail t = true) ∧ tails.length = n - 2 ∧ bs = b :: (tails ++ rest) ∧
        c = charOfBytes (a :: b :: tails) := by
  unfold decodeOne at h
  split at h
  · rename_i small
    cases h
    exact .inl ⟨UInt8.lt_iff_toNat_lt.mp small, rfl, rfl⟩
  cases hl : leadByte? a with
  | none =>
    rw [hl] at h
    cases h
  | some lead =>
    obtain ⟨low, high, k⟩ := lead
    rw [hl] at h
    cases bs with
    | nil => cases h
    | cons b rest =>
      dsimp only at h
      split at h
      · cases h
      rename_i inside
      simp only [Bool.not_eq_true', Bool.and_eq_false_iff, decide_eq_false_iff_not, not_or, not_not]
        at inside
      split at h
      · rename_i all
        cases h
        -- all of the bytes that should be tails are
        have taken : (rest.take (n - 2)).takeWhile isTail = rest.take (n - 2) :=
          (List.takeWhile_prefix isTail).eq_of_length
            (Nat.le_antisymm (List.takeWhile_prefix isTail).length_le
              (by rw [all]; exact List.length_take_le _ _))
        rw [taken] at all ⊢
        exact .inr ⟨low, high, b, rest.take (n - 2), rest.drop (n - 2), rfl, inside.1, inside.2,
          List.takeWhile_eq_self_iff.mp taken, all, by rw [List.take_append_drop], rfl⟩
      · cases h

/-- What is read as a character are the bytes of that character. -/
theorem encode_of_decodeOne {a : UInt8} {bs : List UInt8} {c : Char} {n : Nat}
    (h : decodeOne a bs = .ok (c, n)) :
    String.utf8EncodeChar c ++ bs.drop (n - 1) = a :: bs := by
  rcases decodeOne_cases h with ⟨small, rfl, rfl⟩ |
    ⟨low, high, b, tails, rest, lead, hlow, hhigh, all, long, rfl, rfl⟩
  · rw [encode_ofNat (by unfold Nat.isValidChar; omega), if_pos (by omega), UInt8.ofNat_toNat]
    rfl
  · obtain ⟨two, encoded⟩ := encode_charOfBytes lead hlow hhigh all long
    obtain ⟨m, rfl⟩ := Nat.exists_eq_add_of_le' two
    have behind : (tails ++ rest).drop m = rest := List.drop_left' long
    rw [encoded]
    simp [behind]

/-! ## Texts -/

theorem decodeFrom_encode : ∀ (cs : List Char) {n : Nat}, cs.length ≤ n →
    decodeFrom n (cs.flatMap String.utf8EncodeChar) = some cs
  | [], n, _ => by
    rw [List.flatMap_nil]
    cases n <;> rfl
  | c :: cs, 0, h => absurd h (Nat.not_succ_le_zero _)
  | c :: cs, n + 1, h => by
    obtain ⟨a, bs, hbs, hone⟩ := decodeOne_encode c (cs.flatMap String.utf8EncodeChar)
    rw [List.flatMap_cons, hbs, List.cons_append]
    unfold decodeFrom
    rw [hone]
    simp [decodeFrom_encode cs (Nat.le_of_succ_le_succ h)]

theorem decodeLossyFrom_encode : ∀ (cs : List Char) {n : Nat}, cs.length ≤ n →
    decodeLossyFrom n (cs.flatMap String.utf8EncodeChar) = cs
  | [], n, _ => by
    rw [List.flatMap_nil]
    cases n <;> rfl
  | c :: cs, 0, h => absurd h (Nat.not_succ_le_zero _)
  | c :: cs, n + 1, h => by
    obtain ⟨a, bs, hbs, hone⟩ := decodeOne_encode c (cs.flatMap String.utf8EncodeChar)
    rw [List.flatMap_cons, hbs, List.cons_append]
    unfold decodeLossyFrom
    rw [hone]
    simp [decodeLossyFrom_encode cs (Nat.le_of_succ_le_succ h)]

theorem encode_of_decodeFrom : ∀ {n : Nat} {bs : List UInt8} {cs : List Char},
    decodeFrom n bs = some cs →
    cs.flatMap String.utf8EncodeChar = bs
  | n, [], cs, h => by
    have none : cs = [] := by
      cases n <;> exact (Option.some.inj h).symm
    rw [none, List.flatMap_nil]
  | 0, _ :: _, _, h => by cases h
  | n + 1, a :: bs, cs, h => by
    unfold decodeFrom at h
    cases hone : decodeOne a bs with
    | error e =>
      rw [hone] at h
      cases h
    | ok read =>
      rw [hone] at h
      obtain ⟨rest, hrest, rfl⟩ := Option.map_eq_some_iff.mp h
      rw [List.flatMap_cons, encode_of_decodeFrom hrest, encode_of_decodeOne hone]

theorem length_le_encode : ∀ cs : List Char, cs.length ≤ (cs.flatMap String.utf8EncodeChar).length
  | [] => Nat.le_refl _
  | c :: cs => by
    have rest := length_le_encode cs
    have first := List.length_pos_iff.mpr (utf8EncodeChar_ne_nil c)
    rw [List.flatMap_cons, List.length_append, List.length_cons]
    omega

theorem decode?_utf8 (s : String) : decode? (utf8 s) = some s := by
  unfold decode?
  rw [utf8_eq_flatMap, decodeFrom_encode _ (length_le_encode _)]
  simp

/-- **Strictness.** Bytes are read as a text just if they are the bytes of that text. -/
theorem decode?_eq_some_iff {bs : List UInt8} {s : String} : decode? bs = some s ↔ utf8 s = bs := by
  constructor
  · intro h
    obtain ⟨cs, read, rfl⟩ := Option.map_eq_some_iff.mp h
    rw [utf8_eq_flatMap, String.toList_ofList, encode_of_decodeFrom read]
  · rintro rfl
    exact decode?_utf8 s

theorem decodeLossy_utf8 (s : String) : decodeLossy (utf8 s) = s := by
  unfold decodeLossy
  rw [utf8_eq_flatMap, decodeLossyFrom_encode _ (length_le_encode _)]
  simp

theorem utf8_join (ss : List String) : utf8 (String.join ss) = ss.flatMap utf8 := by
  induction ss with
  | nil => rfl
  | cons s ss ih =>
    rw [utf8_eq_flatMap] at ih ⊢
    simp [utf8_eq_flatMap s, ← ih]

theorem utf8_injective {s t : String} (h : utf8 s = utf8 t) : s = t := by
  have hs := decode?_utf8 s
  rw [h, decode?_utf8] at hs
  exact (Option.some.inj hs).symm

end ViewWeave.Text
