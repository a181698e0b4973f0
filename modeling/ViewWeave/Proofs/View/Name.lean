import ViewWeave.Proofs.Text.Split
import ViewWeave.View.Name

/-!
# Names and their halves

A name is read at its first colon, whatever it was made of. So the halves come back as they were
just if the first of them has no colon, and two pairs of halves give one name just if one of the
names is cut in two places.
-/

namespace ViewWeave

namespace TemplateName

theorem ofParts_eq (l p : String) : ofParts l p = ⟨l ++ ":" ++ p⟩ := by
  have text : String.ofList (l.toList ++ ':' :: p.toList) = l ++ ":" ++ p := by
    refine String.toList_inj.mp ?_
    simp
  unfold ofParts
  rw [text]

/-! ## Reading a name -/

theorem layout_eq {l : String} (h : ':' ∉ l.toList) (p : String) :
    layout ⟨l ++ ":" ++ p⟩ = l ∧ page ⟨l ++ ":" ++ p⟩ = p := by
  have split : Text.splitOnce? ':' (l ++ ":" ++ p).toList = some (l.toList, p.toList) :=
    Text.splitOnce?_eq_some_iff.mpr ⟨by simp, h⟩
  unfold layout page
  dsimp only
  rw [split]
  simp

theorem not_mem_layout {n : TemplateName} (h : ':' ∈ n.text.toList) : ':' ∉ n.layout.toList := by
  unfold layout
  cases hs : Text.splitOnce? ':' n.text.toList with
  | none => exact absurd h (Text.splitOnce?_eq_none_iff.mp hs)
  | some parts =>
    have apart := (Text.splitOnce?_eq_some_iff.mp hs).2
    simpa using apart

theorem halves_iff (l p : String) :
    (ofParts l p).layout = l ∧ (ofParts l p).page = p ↔ ':' ∉ l.toList := by
  rw [ofParts_eq]
  constructor
  · rintro ⟨half, -⟩
    rw [← half]
    exact not_mem_layout (by simp)
  · intro plain
    exact layout_eq plain p

/-- The halves of a name give its text back, with a colon at the end if it has none. -/
theorem text_ofParts_halves (n : TemplateName) : (ofParts n.layout n.page).text =
    if ':' ∈ n.text.toList then n.text else n.text ++ ":" := by
  rw [ofParts_eq]
  unfold layout page
  cases hs : Text.splitOnce? ':' n.text.toList with
  | none =>
    rw [if_neg (Text.splitOnce?_eq_none_iff.mp hs)]
    simp
  | some parts =>
    obtain ⟨spelled, -⟩ := Text.splitOnce?_eq_some_iff.mp hs
    rw [if_pos (by simp [spelled])]
    refine String.toList_inj.mp ?_
    simp [spelled]

/-! ## One name for two pairs of halves -/

/-- The name of `l` and `p` is cut a second time, at a colon in `p`, into `m` and `q`. -/
def CutLater (l p m q : String) : Prop := ∃ r, m = l ++ ":" ++ r ∧ p = r ++ ":" ++ q

theorem cutLater_of_toList {l p m q : String} {r : List Char}
    (longer : m.toList = l.toList ++ ':' :: r)
    (rest : p.toList = r ++ ':' :: q.toList) : CutLater l p m q := by
  refine ⟨String.ofList r, String.toList_inj.mp ?_, String.toList_inj.mp ?_⟩
  · simpa using longer
  · simpa using rest

theorem CutLater.same {l p m q : String} (h : CutLater l p m q) : ofParts l p = ofParts m q := by
  obtain ⟨r, rfl, rfl⟩ := h
  rw [ofParts_eq, ofParts_eq, mk.injEq]
  refine String.toList_inj.mp ?_
  simp

theorem ofParts_eq_iff {l p m q : String} : ofParts l p = ofParts m q ↔
    (l = m ∧ p = q) ∨ CutLater l p m q ∨ CutLater m q l p := by
  constructor
  · intro h
    rw [ofParts_eq, ofParts_eq, mk.injEq] at h
    have lists : l.toList ++ ':' :: p.toList = m.toList ++ ':' :: q.toList := by
      simpa using congrArg String.toList h
    rcases (Text.append_cons_eq_iff).mp lists with ⟨first, second⟩ | ⟨r, longer, rest⟩ |
      ⟨r, longer, rest⟩
    · exact .inl ⟨String.toList_inj.mp first, String.toList_inj.mp second⟩
    · exact .inr (.inl (cutLater_of_toList longer rest))
    · exact .inr (.inr (cutLater_of_toList longer rest))
  · rintro (⟨rfl, rfl⟩ | cut | cut)
    · rfl
    · exact cut.same
    · exact cut.same.symm

/-- **Names and halves.** Different pairs of halves have one name just if one of them cuts it at a
later colon than the other; the halves are read back from a name just if the first has no colon; and
a name is made again from its halves just if it has one. -/
theorem ofParts_and_halves :
    (∀ l₁ p₁ l₂ p₂ : String, (l₁, p₁) ≠ (l₂, p₂) → (ofParts l₁ p₁ = ofParts l₂ p₂ ↔
      ∃ m, (l₂ = l₁ ++ ":" ++ m ∧ p₁ = m ++ ":" ++ p₂) ∨
        (l₁ = l₂ ++ ":" ++ m ∧ p₂ = m ++ ":" ++ p₁))) ∧
    (∀ l p : String, ((ofParts l p).layout = l ∧ (ofParts l p).page = p) ↔ ':' ∉ l.toList) ∧
    ∀ n : String, ((ofParts (mk n).layout (mk n).page).text = n ↔ ':' ∈ n.toList) ∧
      (':' ∉ n.toList → (ofParts (mk n).layout (mk n).page).text = n ++ ":") := by
  refine ⟨fun l₁ p₁ l₂ p₂ apart => ?_, halves_iff, fun n => ⟨?_, fun plain => ?_⟩⟩
  · have differ : ¬(l₁ = l₂ ∧ p₁ = p₂) := by simpa using apart
    rw [ofParts_eq_iff, or_iff_right differ]
    exact exists_or.symm
  · rw [text_ofParts_halves]
    split
    · rename_i colon
      exact iff_of_true rfl colon
    · rename_i plain
      refine iff_of_false (fun same => ?_) plain
      exact plain (by rw [← same]; simp)
  · rw [text_ofParts_halves, if_neg plain]

theorem ofParts_and_halves_nested : (("a", "b:c") : String × String) ≠ ("a:b", "c") ∧
    ofParts "a" "b:c" = ofParts "a:b" "c" ∧ ':' ∉ "orphan".toList ∧
      (ofParts (mk "orphan").layout (mk "orphan").page).text = "orphan:" := by
  have apart : (("a", "b:c") : String × String) ≠ ("a:b", "c") := by decide
  have plain : ':' ∉ "orphan".toList := by decide
  exact ⟨apart, (ofParts_and_halves.1 _ _ _ _ apart).mpr ⟨"b", .inl ⟨rfl, rfl⟩⟩, plain,
    (ofParts_and_halves.2.2 "orphan").2 plain⟩

end TemplateName

end ViewWeave
