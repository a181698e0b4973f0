import ViewWeave.Text.Utf8
import Mathlib.Tactic.SplitIfs
import Mathlib.Data.String.Basic

/-!
# The order of texts is the order of their bytes

Texts are compared character by character. The bytes of a smaller character are smaller at the first
place where they differ, so texts that ascend also ascend as lists of bytes.
-/

namespace ViewWeave.Text

theorem utf8_eq_flatMap (s : String) : utf8 s = s.toList.flatMap String.utf8EncodeChar := by
  show s.toByteArray.data.toList = _
  rw [← String.utf8Encode_toList, List.utf8Encode, List.toList_data_toByteArray]

theorem char_toNat_le (c : Char) : c.val.toNat ≤ 0x10FFFF := by
  have hc := c.valid
  simp only [UInt32.isValidChar, Nat.isValidChar] at hc
  omega

/-! ## Single characters -/

theorem byte_lt {a b : Nat} (h : a < b) (hb : b < 256) (xs ys : List UInt8) :
    UInt8.ofNat a :: xs < UInt8.ofNat b :: ys := by
  refine List.cons_lt_cons_iff.mpr (.inl (UInt8.lt_iff_toNat_lt.mpr ?_))
  rw [UInt8.toNat_ofNat', UInt8.toNat_ofNat']
  omega

theorem byte_eq {a b : Nat} (h : a = b) {xs ys : List UInt8} (ht : xs < ys) :
    UInt8.ofNat a :: xs < UInt8.ofNat b :: ys :=
  List.cons_lt_cons_iff.mpr (.inr ⟨congrArg _ h, ht⟩)

/-- The last byte decides between characters that agree in all bits before it. -/
theorem lastByte_lt {v w : Nat} (h : v < w) (hq : v / 64 = w / 64) (xs ys : List UInt8) :
    UInt8.ofNat (v % 64 + 128) :: xs < UInt8.ofNat (w % 64 + 128) :: ys :=
  byte_lt (by omega) (by omega) xs ys

theorem lastBytes_lt {v w : Nat} (h : v < w) (hq : v / 4096 = w / 4096) (xs ys : List UInt8) :
    UInt8.ofNat (v / 64 % 64 + 128) :: UInt8.ofNat (v % 64 + 128) :: xs <
      UInt8.ofNat (w / 64 % 64 + 128) :: UInt8.ofNat (w % 64 + 128) :: ys := by
  rcases Nat.lt_or_ge (v / 64) (w / 64) with hlt | hge
  · exact byte_lt (by omega) (by omega) _ _
  · exact byte_eq (by omega) (lastByte_lt h (by omega) xs ys)

/-- A smaller character makes the smaller bytes, whatever follows. -/
theorem utf8EncodeChar_lt {c d : Char} (h : c < d) (xs ys : List UInt8) :
    String.utf8EncodeChar c ++ xs < String.utf8EncodeChar d ++ ys := by
  have hcd : c.val.toNat < d.val.toNat := h
  have hd := char_toNat_le d
  unfold String.utf8EncodeChar
  generalize c.val.toNat = v, d.val.toNat = w at *
  dsimp only
  by_cases h1 : v ≤ 0x7f
  · rw [if_pos h1]
    split_ifs <;> exact byte_lt (by omega) (by omega) _ _
  rw [if_neg h1, if_neg (show ¬w ≤ 0x7f by omega)]
  by_cases h2 : v ≤ 0x7ff
  · rw [if_pos h2]
    split_ifs
    -- both have two bytes, or the second one has more and a greater first byte
    · rcases Nat.lt_or_ge (v / 64) (w / 64) with hlt | hge
      · exact byte_lt (by omega) (by omega) _ _
      · exact byte_eq (by omega) (lastByte_lt hcd (by omega) _ _)
    all_goals exact byte_lt (by omega) (by omega) _ _
  rw [if_neg h2, if_neg (show ¬w ≤ 0x7ff by omega)]
  by_cases h3 : v ≤ 0xffff
  · rw [if_pos h3]
    split_ifs
    · rcases Nat.lt_or_ge (v / 4096) (w / 4096) with hlt | hge
      · exact byte_lt (by omega) (by omega) _ _
      · exact byte_eq (by omega) (lastBytes_lt hcd (by omega) _ _)
    · exact byte_lt (by omega) (by omega) _ _
  rw [if_neg h3, if_neg (show ¬w ≤ 0xffff by omega)]
  rcases Nat.lt_or_ge (v / 262144) (w / 262144) with hlt | hge
  · exact byte_lt (by omega) (by omega) _ _
  refine byte_eq (by omega) ?_
  rcases Nat.lt_or_ge (v / 4096) (w / 4096) with hlt | hge
  · exact byte_lt (by omega) (by omega) _ _
  · exact byte_eq (by omega) (lastBytes_lt hcd (by omega) _ _)

theorem utf8EncodeChar_ne_nil (c : Char) : String.utf8EncodeChar c ≠ [] := by
  intro h
  have hlen := String.length_utf8EncodeChar c
  rw [h] at hlen
  exact absurd hlen (Nat.ne_of_lt c.utf8Size_pos)

/-! ## Texts -/

theorem flatMap_encode_lt :
    ∀ {cs ds : List Char}, cs < ds →
      cs.flatMap String.utf8EncodeChar < ds.flatMap String.utf8EncodeChar
  | _, [], h => absurd h (List.not_lt_nil _)
  | [], d :: ds, _ => by
    rw [List.flatMap_nil, List.flatMap_cons]
    cases hd : String.utf8EncodeChar d with
    | nil => exact absurd hd (utf8EncodeChar_ne_nil d)
    | cons b bs => exact List.nil_lt_cons _ _
  | c :: cs, d :: ds, h => by
    rw [List.flatMap_cons, List.flatMap_cons]
    rcases List.cons_lt_cons_iff.mp h with hlt | ⟨rfl, htail⟩
    · exact utf8EncodeChar_lt hlt _ _
    · exact List.append_left_lt (flatMap_encode_lt htail)

/-- **Byte order.** A smaller text has the smaller bytes. -/
theorem utf8_lt_utf8 {s t : String} (h : s < t) : utf8 s < utf8 t := by
  rw [utf8_eq_flatMap, utf8_eq_flatMap]
  exact flatMap_encode_lt h

theorem lt_of_utf8_lt {s t : String} (h : utf8 s < utf8 t) : s < t := by
  rcases lt_trichotomy s t with less | rfl | greater
  · exact less
  · exact absurd h (List.lt_irrefl _)
  · exact absurd h (List.lt_asymm (utf8_lt_utf8 greater))

end ViewWeave.Text
