import ViewWeave.Proofs.Yaml.Lines
import ViewWeave.Yaml.Event

/-!
# Events of lines

A text of lines with short keys is one document, a mapping with a pair of plain scalars for each
line. A text with a key that is too long is no whole document.
-/

namespace ViewWeave.Yaml

/-! ## Steps that emit -/

namespace Emit

variable {α β : Type} {f : α → Emit β}

theorem bind_of_eq {m : Emit α} {ts us : List Token} {es : List Marked} {a : α}
    (h : m ts = (es, some (a, us))) :
    (m >>= f) ts = (es ++ (f a us).1, (f a us).2) := by
  simp only [bind]
  rw [h]

theorem bind_of_none {m : Emit α} {ts : List Token} {es : List Marked} (h : m ts = (es, none)) :
    (m >>= f) ts = (es, none) := by
  simp only [bind]
  rw [h]

@[simp] theorem bind_peek (f : Token → Emit β) (t : Token) (ts : List Token) :
    (peek >>= f) (t :: ts) = f t (t :: ts) := rfl

@[simp] theorem bind_peek_nil (f : Token → Emit β) : (peek >>= f) [] = ([], none) := rfl

@[simp] theorem bind_pass (f : Unit → Emit β) (t : Token) (ts : List Token) :
    (pass >>= f) (t :: ts) = f () ts := rfl

@[simp] theorem bind_emit (f : Unit → Emit β) (e : Event) (p : Place) (ts : List Token) :
    (emit e p >>= f) ts = (⟨e, p⟩ :: (f () ts).1, (f () ts).2) := rfl

@[simp] theorem bind_emitEmpty (f : Unit → Emit β) (p : Place) (ts : List Token) :
    (emitEmpty p >>= f) ts = (⟨.scalar none none [] .plain, p⟩ :: (f () ts).1, (f () ts).2) := rfl

end Emit

open Emit

/-! ## Pairs -/

def Line.events (l : Line) (p : Place) : List Marked :=
  [⟨.scalar none none l.key .plain, p⟩,
    ⟨.scalar none none l.value .plain, p.along (l.key.length + if l.value.isEmpty then 1 else 2)⟩]

def lineEvents : Place → List Line → List Marked
  | _, [] => []
  | p, l :: ls => l.events p ++ lineEvents (l.stop p).below ls

theorem exists_of_mem_lineEvents {m : Marked} {ls : List Line} {p : Place}
    (h : m ∈ lineEvents p ls) :
    ∃ w q, m = ⟨.scalar none none w .plain, q⟩ := by
  induction ls generalizing p with
  | nil => cases h
  | cons l ls ih =>
    rw [lineEvents, Line.events, List.mem_append, List.mem_pair] at h
    rcases h with (rfl | rfl) | h
    · exact ⟨_, _, rfl⟩
    · exact ⟨_, _, rfl⟩
    · exact ih h

theorem length_lineEvents (p : Place) (ls : List Line) :
    (lineEvents p ls).length = 2 * ls.length := by
  induction ls generalizing p with
  | nil => rfl
  | cons l ls ih =>
    rw [lineEvents, List.length_append, ih, Line.events, List.length_cons]
    simp
    omega

section
variable {handles : Handles} {fuel : Nat} {p q : Place} {ts : List Token}

theorem node_scalar (block loose : Bool) (w : List Char) (style : Style) :
    node handles (fuel + 1) block loose (⟨.scalar w style, p, q⟩ :: ts) =
      ([⟨.scalar none none w style, p⟩], some ((), ts)) := by
  rw [node]
  cases loose <;> rfl

theorem node_mapping {es : List Marked} {r : Option (Unit × List Token)} (loose : Bool)
    (pairs : blockPairs handles fuel ts = (es, r)) :
    node handles (fuel + 1) true loose (⟨.blockMappingStart, p, q⟩ :: ts) =
      (⟨.mappingStart none, p⟩ :: es, r) := by
  have bound : node handles (fuel + 1) true loose (⟨.blockMappingStart, p, q⟩ :: ts) =
      (⟨.mappingStart none, p⟩ :: (blockPairs handles fuel ts).1,
        (blockPairs handles fuel ts).2) := by
    rw [node]
    cases loose <;> rfl
  rw [bound, pairs]

theorem blockPairs_end :
    blockPairs handles (fuel + 1) (⟨.blockEnd, p, q⟩ :: ts) =
      ([⟨.mappingEnd, p⟩], some ((), ts)) := by
  rw [blockPairs]
  rfl

theorem bind_node_scalar (f : Unit → Emit Unit) (block loose : Bool) (w : List Char)
    (style : Style) :
    (node handles (fuel + 1) block loose >>= f) (⟨.scalar w style, p, q⟩ :: ts) =
      (⟨.scalar none none w style, p⟩ :: (f () ts).1, (f () ts).2) :=
  bind_of_eq (node_scalar block loose w style)

theorem blockPairs_line (l : Line) {t : Token} (ends : t.kind.endsPair) :
    blockPairs handles (fuel + 2) (l.tokens true p ++ t :: ts) =
      (l.events p ++ (blockPairs handles (fuel + 1) (t :: ts)).1,
        (blockPairs handles (fuel + 1) (t :: ts)).2) := by
  rw [blockPairs]
  unfold Line.tokens keyTokens Line.events
  simp only [↓reduceIte, List.nil_append, List.cons_append, bind_peek, bind_pass, bind_node_scalar,
    Kind.endsPair, Bool.false_eq_true]
  cases hv : l.value with
  | nil =>
    unfold Kind.endsPair at ends
    simp [valueTokens, ends]
  | cons c cs => simp [valueTokens, bind_node_scalar]

/-- After the last line with nothing behind it a fault is met. -/
theorem blockPairs_fault (l : Line) :
    ∃ es, blockPairs handles (fuel + 2) (l.tokens true p) = (es, none) ∧
    ∀ m ∈ es, m.event ≠ .documentEnd := by
  rw [blockPairs]
  unfold Line.tokens keyTokens
  simp only [↓reduceIte, List.nil_append, List.cons_append, bind_peek, bind_pass, bind_node_scalar,
    Kind.endsPair, Bool.false_eq_true]
  cases hv : l.value with
  | nil => exact ⟨_, rfl, by simp [valueTokens]⟩
  | cons c cs =>
    rw [blockPairs]
    exact ⟨_, rfl, by simp [valueTokens, bind_node_scalar]⟩

theorem exists_lineTokens_append (p : Place) (ls : List Line) {t : Token} (ends : t.kind.endsPair)
    (ts : List Token) :
    ∃ u us, lineTokens true p ls ++ t :: ts = u :: us ∧ u.kind.endsPair := by
  cases ls with
  | nil => exact ⟨t, ts, rfl, ends⟩
  | cons l ls => exact ⟨⟨.key, p, p⟩, _, rfl, rfl⟩

theorem blockPairs_lines {ls : List Line} (enough : ls.length < fuel) (p : Place) :
    blockPairs handles fuel (lineTokens true p ls ++ ⟨.blockEnd, q, q⟩ :: ts) =
      (lineEvents p ls ++ [⟨.mappingEnd, q⟩], some ((), ts)) := by
  induction ls generalizing fuel p with
  | nil =>
    obtain ⟨fuel, rfl⟩ := Nat.exists_eq_add_of_lt enough
    exact blockPairs_end
  | cons l ls ih =>
    obtain ⟨fuel, rfl⟩ : ∃ n, fuel = n + 2 := ⟨fuel - 2, by simp at enough; omega⟩
    obtain ⟨u, us, next, ends⟩ := exists_lineTokens_append (l.stop p).below ls
      (show (Token.mk .blockEnd q q).kind.endsPair from rfl) ts
    have rest := ih (Nat.lt_of_succ_lt_succ enough) (l.stop p).below
    rw [next] at rest
    rw [lineTokens, List.append_assoc, next, blockPairs_line l ends, rest, lineEvents,
      List.append_assoc]

/-- Without an end of the mapping a fault is met, before any document has ended. -/
theorem blockPairs_open {ls : List Line} (some : ls ≠ []) (enough : ls.length < fuel) (p : Place) :
    ∃ es, blockPairs handles fuel (lineTokens true p ls) = (es, none) ∧
      ∀ m ∈ es, m.event ≠ .documentEnd := by
  induction ls generalizing fuel p with
  | nil => exact absurd rfl some
  | cons l ls ih =>
    obtain ⟨fuel, rfl⟩ : ∃ n, fuel = n + 2 := ⟨fuel - 2, by simp at enough; omega⟩
    cases ls with
    | nil =>
      rw [lineTokens, lineTokens, List.append_nil]
      exact blockPairs_fault l
    | cons m ls =>
      obtain ⟨es, rest, none⟩ :=
        ih (List.cons_ne_nil m ls) (Nat.lt_of_succ_lt_succ enough) (l.stop p).below
      obtain ⟨u, us, next, ends⟩ : ∃ u us, lineTokens true (l.stop p).below (m :: ls) = u :: us ∧
          u.kind.endsPair :=
        ⟨_, _, rfl, rfl⟩
      rw [next] at rest
      rw [lineTokens, next, blockPairs_line l ends, rest]
      refine ⟨_, rfl, fun e he => ?_⟩
      rcases List.mem_append.mp he with he | he
      · simp only [Line.events, List.mem_cons, List.not_mem_nil, or_false] at he
        rcases he with rfl | rfl <;> simp
      · exact none e he

theorem lineTokens_opening {ls : List Line} (some : ls ≠ []) (p : Place) :
    lineTokens false p ls = ⟨.blockMappingStart, p, p⟩ :: lineTokens true p ls := by
  cases ls with
  | nil => exact absurd rfl some
  | cons l ls => rfl

theorem length_le_lineTokens (opened : Bool) (p : Place) (ls : List Line) :
    ls.length ≤ (lineTokens opened p ls).length := by
  induction ls generalizing opened p with
  | nil => exact Nat.le_refl 0
  | cons l ls ih =>
    have rest := ih true (l.stop p).below
    simp only [lineTokens, Line.tokens, keyTokens, List.length_append, List.length_cons]
    omega

/-! ## Documents -/

theorem documents_over :
    documents (fuel + 1) false (⟨.streamEnd, p, q⟩ :: ts) = ([⟨.streamEnd, p⟩], some ((), ts)) := by
  rw [documents]
  rfl

theorem Kind.ne_streamEnd {k : Kind} (bare : k.endsDocument = false) : k ≠ .streamEnd := by
  rintro rfl
  cases bare

variable {t : Token} {es : List Marked} (bare : t.kind.endsDocument = false)
include bare

theorem documents_whole {us : List Token}
    (root : node standardHandles (8 * (fuel + 1)) true false (t :: ts) =
      (es, some ((), ⟨.streamEnd, q, q⟩ :: us))) :
    documents (fuel + 2) true (t :: ts) =
      (⟨.documentStart, t.start⟩ :: (es ++ [⟨.documentEnd, q⟩, ⟨.streamEnd, q⟩]),
        some ((), us)) := by
  have going := Kind.ne_streamEnd bare
  rw [documents]
  simp [bare, bind_of_eq root, documents_over]

/-- A document without marks in which a fault is met, or behind which the tokens end. -/
theorem documents_fault {r : Option (Unit × List Token)} (hr : r = none ∨ r = some ((), []))
    (root : node standardHandles (8 * fuel) true false (t :: ts) = (es, r)) :
    documents (fuel + 1) true (t :: ts) = (⟨.documentStart, t.start⟩ :: es, none) := by
  have going := Kind.ne_streamEnd bare
  rw [documents]
  rcases hr with rfl | rfl
  · simp [bare, bind_of_none root]
  · simp [bare, bind_of_eq root]

end

/-! ## Texts -/

section
variable {ls : List Line} {fuel : Nat} (some : ls ≠ []) (enough : ls.length ≤ fuel) (p : Place)
include some enough

theorem documents_lines (q : Place) :
    documents (fuel + 2) true (lineTokens false p ls ++ [⟨.blockEnd, q, q⟩, ⟨.streamEnd, q, q⟩]) =
      (⟨.documentStart, p⟩ :: ⟨.mappingStart none, p⟩ ::
        (lineEvents p ls ++ [⟨.mappingEnd, q⟩, ⟨.documentEnd, q⟩, ⟨.streamEnd, q⟩]),
        .some ((), [])) := by
  have less : ls.length < 8 * fuel + 7 := by omega
  have pairs : blockPairs standardHandles (8 * fuel + 7)
      (_ ++ ⟨.blockEnd, q, q⟩ :: [⟨.streamEnd, q, q⟩]) = _ :=
    blockPairs_lines less p
  rw [lineTokens_opening some, List.cons_append, documents_whole rfl (node_mapping false pairs)]
  simp

theorem documents_open :
    ∃ es, (documents (fuel + 2) true (lineTokens false p ls)).1 = ⟨.documentStart, p⟩ :: es ∧
      ∀ m ∈ es, m.event ≠ .documentEnd := by
  have less : ls.length < 8 * fuel + 7 := by omega
  obtain ⟨es, pairs, none⟩ :
      ∃ es, blockPairs standardHandles (8 * fuel + 7) (lineTokens true p ls) = (es, none) ∧ _ :=
    blockPairs_open some less p
  have root : node standardHandles (8 * fuel + 7 + 1) true false
      (⟨.blockMappingStart, p, p⟩ :: _) = _ :=
    node_mapping false pairs
  rw [lineTokens_opening some, documents_fault rfl (.inl rfl) root]
  exact ⟨_, rfl, by simpa using none⟩

end

theorem events_fst (text : List Char) :
    (events text).1 = (documents ((tokens text).length + 2) true (tokens text)).1 := by
  unfold events
  dsimp only
  split
  · rename_i heq
    rw [heq]
  · rename_i heq
    rw [heq]

section
variable {ls : List Line} (plain : ∀ l ∈ ls, l.IsPlain)
include plain

/-- **Events of lines.** Lines with short keys are one document, a mapping with a pair of scalars
for each. -/
theorem events_lines (short : ∀ l ∈ ls, l.IsShort) (some : ls ≠ []) :
    ∃ q, (events (linesText ls)).1 =
    ⟨.documentStart, ⟨0, 0, 0⟩⟩ :: ⟨.mappingStart none, ⟨0, 0, 0⟩⟩ ::
      (lineEvents ⟨0, 0, 0⟩ ls ++ [⟨.mappingEnd, q⟩, ⟨.documentEnd, q⟩, ⟨.streamEnd, q⟩]) := by
  obtain ⟨q, scanned⟩ := tokens_lines plain short some
  have count := length_le_lineTokens false ⟨0, 0, 0⟩ ls
  refine ⟨q, ?_⟩
  rw [events_fst, scanned, documents_lines some _ ⟨0, 0, 0⟩ q]
  rw [List.length_append]
  omega

/-- With a key that is too long no document is ended. -/
theorem events_long (long : ∃ l ∈ ls, ¬l.IsShort) : ∃ es, (events (linesText ls)).1 =
    ⟨.documentStart, ⟨0, 0, 0⟩⟩ :: es ∧ ∀ m ∈ es, m.event ≠ .documentEnd := by
  obtain ⟨l, found⟩ : ∃ l, ls.find? (fun l => !decide l.IsShort) = some l :=
    Option.isSome_iff_exists.mp (List.find?_isSome.mpr (by simpa using long))
  obtain ⟨hl, before, after, hls, short⟩ := List.find?_eq_some_iff_append.mp found
  obtain ⟨q, scanned⟩ := tokens_long plain hls (by simpa using short) (by simpa using hl)
  rw [events_fst, scanned]
  cases before with
  | nil =>
    have root : node standardHandles (8 * 2) true false
        [⟨.scalar l.key .plain, ⟨0, 0, 0⟩, q⟩] = _ :=
      node_scalar true false l.key .plain
    exact ⟨_, congrArg Prod.fst (documents_fault rfl (.inr rfl) root), by simp⟩
  | cons m before =>
    have count := length_le_lineTokens false ⟨0, 0, 0⟩ (m :: before)
    rw [List.isEmpty_cons, if_neg (by simp), List.append_nil]
    exact documents_open (List.cons_ne_nil m before) count ⟨0, 0, 0⟩

end

end ViewWeave.Yaml
