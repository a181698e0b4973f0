import ViewWeave.Proofs.Data.Scalars

/-!
# Reading back what was written

Indented data text is read as the value that it was written from, with the fields of every object in
order.
-/

namespace ViewWeave.Value

mutual

/-- The value with the fields of every object in order, of which the last for each name counts. -/
def sorted : Value → Value
  | .null => .null
  | .bool b => .bool b
  | .num x => .num x
  | .str s => .str s
  | .arr items => .arr (sortedItems items)
  | .obj fields => .obj (Fields.ofList (sortedFields fields))

def sortedItems : List Value → List Value
  | [] => []
  | v :: rest => sorted v :: sortedItems rest

def sortedFields : List (String × Value) → List (String × Value)
  | [] => []
  | (k, v) :: rest => (k, sorted v) :: sortedFields rest

end

/-- All numbers of the value are whole numbers of 64 bits, and brackets are nested at most so
deep. -/
inductive Exact : Nat → Value → Prop
  | null {depth : Nat} : Exact depth .null
  | bool {depth : Nat} (b : Bool) : Exact depth (.bool b)
  | int {depth : Nat} {i : Int} (low : Number.minSigned ≤ i) (high : i ≤ Number.maxUnsigned) :
    Exact depth (.num (.int i))
  | str {depth : Nat} (s : String) : Exact depth (.str s)
  | arr {depth : Nat} {items : List Value} (h : ∀ v ∈ items, Exact depth v) :
    Exact (depth + 1) (.arr items)
  | obj {depth : Nat} {fields : List (String × Value)} (h : ∀ f ∈ fields, Exact depth f.2) :
    Exact (depth + 1) (.obj fields)

def moreItems (n : Nat) : List Value → List Char
  | [] => []
  | v :: rest => ',' :: indentedItems n (v :: rest)

def moreFields (n : Nat) : List (String × Value) → List Char
  | [] => []
  | f :: rest => ',' :: indentedFields n (f :: rest)

theorem indentedItems_cons (n : Nat) (v : Value) (rest : List Value) :
    indentedItems n (v :: rest) = newLine n ++ (indented n v ++ moreItems n rest) := by
  cases rest <;> simp [indentedItems, moreItems]

theorem indentedFields_cons (n : Nat) (k : String) (v : Value) (rest : List (String × Value)) :
    indentedFields n ((k, v) :: rest) =
      newLine n ++ (writtenString k ++ ':' :: ' ' :: (indented n v ++ moreFields n rest)) := by
  cases rest <;> simp [indentedFields, moreFields]

end ViewWeave.Value

namespace ViewWeave.Data

open ViewWeave.Value

/-! ## White space -/

theorem skipFrom_cons {x : Char} (h : isSpace x = false) (cs : List Char) (line column : Nat) :
    skipFrom line column (x :: cs) = ⟨x :: cs, line, column⟩ := by
  have feed : (x == '\n') = false := by
    cases hx : x == '\n' with
    | false => rfl
    | true => simp [isSpace, hx] at h
  simp [skipFrom, feed, h]

theorem skipFrom_newLine {x : Char} (h : isSpace x = false) (n : Nat) (cs : List Char)
    (line column : Nat) :
    skipFrom line column (newLine n ++ x :: cs) = ⟨x :: cs, line + 1, 2 * n⟩ := by
  have blanks : ∀ k column, skipFrom (line + 1) column (List.replicate k ' ' ++ x :: cs) =
      ⟨x :: cs, line + 1, column + k⟩ := by
    intro k
    induction k with
    | zero => exact skipFrom_cons h cs _
    | succ k ih =>
      intro column
      show skipFrom (line + 1) (column + 1) (List.replicate k ' ' ++ x :: cs) = _
      rw [ih, Nat.add_right_comm, Nat.add_assoc]
  show skipFrom (line + 1) 0 (List.replicate (2 * n) ' ' ++ x :: cs) = _
  rw [blanks, Nat.zero_add]

/-! ## Values -/

theorem isSpace_iff {x : Char} : isSpace x ↔ x = ' ' ∨ x = '\n' ∨ x = '\t' ∨ x = '\r' := by
  simp [isSpace, or_assoc]

theorem isSpace_of_isDigit {x : Char} (h : x.isDigit) : isSpace x = false := by
  rw [Bool.eq_false_iff]
  intro blank
  rcases isSpace_iff.mp blank with rfl | rfl | rfl | rfl <;> exact absurd h (by decide)

/-- A written value starts with a character that is neither white space nor the end of an array. -/
theorem exists_indented_eq {depth : Nat} {v : Value} (h : Exact depth v) (n : Nat) :
    ∃ x cs, indented n v = x :: cs ∧ isSpace x = false ∧ x ≠ ']' := by
  cases h with
  | null => exact ⟨'n', _, rfl, rfl, by decide⟩
  | bool b => cases b with
    | true => exact ⟨'t', _, rfl, rfl, by decide⟩
    | false => exact ⟨'f', _, rfl, rfl, by decide⟩
  | @int _ i _ _ =>
    show ∃ x cs, Decimal.intText i = x :: cs ∧ _
    unfold Decimal.intText
    split
    · exact ⟨'-', _, rfl, rfl, by decide⟩
    · obtain ⟨d, ds, hd, digit⟩ := exists_natText_eq i.natAbs
      refine ⟨d, ds, hd, isSpace_of_isDigit digit, ?_⟩
      rintro rfl
      exact absurd digit (by decide)
  | str s => exact ⟨'"', _, rfl, rfl, by decide⟩
  | @arr _ items _ => cases items <;> exact ⟨'[', _, rfl, rfl, by decide⟩
  | @obj _ fields _ => cases fields <;> exact ⟨'\x7b', _, rfl, rfl, by decide⟩

structure Takes (depth n : Nat) (v w : Value) : Prop where
  starts : ∃ x cs, indented n v = x :: cs ∧ isSpace x = false ∧ x ≠ ']'
  reads : ∀ {rest}, Apart rest → ∀ line column,
    Leaves (readValue depth ⟨indented n v ++ rest, line, column⟩) w rest

theorem apart_cons {x : Char} {rest : List Char} (h : x = ',' ∨ isSpace x) : Apart (x :: rest) := by
  intro y hy
  cases hy
  rcases h with rfl | blank
  · decide
  · rcases isSpace_iff.mp blank with rfl | rfl | rfl | rfl <;> decide

theorem apart_moreItems (n m : Nat) (items : List Value) (rest : List Char) :
    Apart (moreItems n items ++ (newLine m ++ rest)) := by
  cases items <;> exact apart_cons (by decide)

theorem apart_moreFields (n m : Nat) (fields : List (String × Value)) (rest : List Char) :
    Apart (moreFields n fields ++ (newLine m ++ rest)) := by
  cases fields <;> exact apart_cons (by decide)

section
variable {value : Cursor → Except ReadError (Value × Cursor)} {c : Cursor} {x : Char}
  {cs rest rest' : List Char} {line column : Nat} {fuel : Nat} {v w : Value}

theorem readItems_end {done : List Value} (first : Bool)
    (h : c.skip = ⟨']' :: rest, line, column⟩) :
    Leaves (readItems value (fuel + 1) first done c) (.arr done.reverse) rest := by
  rw [readItems]
  dsimp only
  rw [h]
  exact ⟨_, _, rfl⟩

theorem readItems_first {done : List Value} (h : c.skip = ⟨x :: cs, line, column⟩) (hx : x ≠ ']')
    (hv : Leaves (value ⟨x :: cs, line, column⟩) v rest)
    (hw : ∀ line column, Leaves (readItems value fuel false (v :: done) ⟨rest, line, column⟩) w
      rest') :
    Leaves (readItems value (fuel + 1) true done c) w rest' := by
  rw [readItems]
  dsimp only
  rw [h]
  split
  · rename_i e; cases e
  · rename_i e; exact absurd (List.cons.inj e).1 hx
  · exact hv.bind hw

theorem readItems_next {done : List Value} {more : List Char} {line' column' : Nat}
    (h : c.skip = ⟨',' :: more, line', column'⟩)
    (h' : skipFrom line' (column' + 1) more = ⟨x :: cs, line, column⟩) (hx : x ≠ ']')
    (hv : Leaves (value ⟨x :: cs, line, column⟩) v rest)
    (hw : ∀ line column, Leaves (readItems value fuel false (v :: done) ⟨rest, line, column⟩) w
      rest') :
    Leaves (readItems value (fuel + 1) false done c) w rest' := by
  have after : (Cursor.mk (',' :: more) line' column').next.skip = ⟨x :: cs, line, column⟩ := h'
  rw [readItems]
  dsimp only
  rw [h]
  dsimp only
  rw [after]
  split
  · rename_i e; cases e
  · rename_i e; exact absurd (List.cons.inj e).1 (by decide)
  · rename_i e
    obtain ⟨rfl, -⟩ := List.cons.inj e
    rw [if_neg Bool.false_ne_true, if_pos rfl]
    -- no bracket comes behind the comma
    split
    · rename_i e; cases e
    · rename_i e; exact absurd (List.cons.inj e).1 hx
    · exact hv.bind hw

end

section
variable {depth n m : Nat} (rest : List Char)

theorem readItems_moreItems : ∀ {items : List Value} {fuel : Nat} (done : List Value)
    (line column : Nat), (∀ v ∈ items, Takes depth n v v.sorted) → items.length < fuel →
      Leaves (readItems (readValue depth) fuel false done
        ⟨moreItems n items ++ (newLine m ++ ']' :: rest), line, column⟩)
        (.arr (done.reverse ++ sortedItems items)) rest
  | _, 0, _, _, _, _, h => absurd h (Nat.not_lt_zero _)
  | [], fuel + 1, done, line, column, _, _ => by
    rw [sortedItems, List.append_nil]
    exact readItems_end false (skipFrom_newLine rfl m rest line column)
  | v :: items, fuel + 1, done, line, column, takes, h => by
    obtain ⟨x, cs, hv, solid, inside⟩ := (takes v (List.mem_cons_self ..)).starts
    have head := (takes v (List.mem_cons_self ..)).reads (apart_moreItems n m items (']' :: rest))
    have tail := fun line column => readItems_moreItems (v.sorted :: done) line column
      (fun u hu => takes u (List.mem_cons_of_mem _ hu)) (Nat.lt_of_succ_lt_succ h)
    rw [hv, List.cons_append] at head
    rw [List.reverse_cons, List.append_assoc] at tail
    rw [moreItems, indentedItems_cons, hv]
    simp only [List.cons_append, List.append_assoc]
    exact readItems_next (skipFrom_cons rfl _ _ _) (skipFrom_newLine solid n _ _ _) inside
      (head _ _) tail

theorem readItems_indentedItems {v : Value} {items : List Value} {fuel : Nat}
    (takes : ∀ u ∈ v :: items, Takes depth n u u.sorted) (h : items.length < fuel)
    (line column : Nat) :
    Leaves (readItems (readValue depth) (fuel + 1) true []
      ⟨indentedItems n (v :: items) ++ (newLine m ++ ']' :: rest), line, column⟩)
      (.arr (sortedItems (v :: items))) rest := by
  obtain ⟨x, cs, hv, solid, inside⟩ := (takes v (List.mem_cons_self ..)).starts
  have head := (takes v (List.mem_cons_self ..)).reads (apart_moreItems n m items (']' :: rest))
  have tail := fun line column => readItems_moreItems (m := m) rest [v.sorted] line column
    (fun u hu => takes u (List.mem_cons_of_mem _ hu)) h
  rw [hv, List.cons_append] at head
  rw [indentedItems_cons, hv]
  simp only [List.cons_append, List.append_assoc]
  exact readItems_first (skipFrom_newLine solid n _ _ _) inside (head _ _) tail

end

section
variable {value : Cursor → Except ReadError (Value × Cursor)} {c : Cursor} {x : Char}
  {cs rest rest' : List Char}
  {line column : Nat} {fuel : Nat} {k : String} {v w : Value} {done : Fields}

theorem readFields_end (first : Bool) (h : c.skip = ⟨'\x7d' :: rest, line, column⟩) :
    Leaves (readFields value (fuel + 1) first done c) (.obj done) rest := by
  rw [readFields]
  dsimp only
  rw [h]
  exact ⟨_, _, rfl⟩

theorem readFields_first (h : c.skip = ⟨'"' :: cs, line, column⟩)
    (hv : Leaves (readField value ⟨'"' :: cs, line, column⟩) (k, v) rest)
    (hw : ∀ line column, Leaves (readFields value fuel false (done.insert k v) ⟨rest, line, column⟩)
      w rest') :
    Leaves (readFields value (fuel + 1) true done c) w rest' := by
  rw [readFields]
  dsimp only
  rw [h]
  exact hv.bind hw

theorem readFields_next {more : List Char} {line' column' : Nat}
    (h : c.skip = ⟨',' :: more, line', column'⟩)
    (h' : skipFrom line' (column' + 1) more = ⟨'"' :: cs, line, column⟩)
    (hv : Leaves (readField value ⟨'"' :: cs, line, column⟩) (k, v) rest)
    (hw : ∀ line column, Leaves (readFields value fuel false (done.insert k v) ⟨rest, line, column⟩)
      w rest') :
    Leaves (readFields value (fuel + 1) false done c) w rest' := by
  have after : (Cursor.mk (',' :: more) line' column').next.skip = ⟨'"' :: cs, line, column⟩ := h'
  rw [readFields]
  dsimp only
  rw [h]
  dsimp only
  rw [after]
  exact hv.bind hw

end

section
variable {depth n m : Nat} (rest : List Char)

theorem readValue_blank (cs : List Char) (line column : Nat) :
    readValue depth ⟨' ' :: cs, line, column⟩ = readValue depth ⟨cs, line, column + 1⟩ := by
  unfold readValue
  rfl

variable {rest} in
theorem readField_written {v w : Value} (hv : Takes depth n v w) (h : Apart rest)
    (k : String) (line column : Nat) :
    Leaves (readField (readValue depth)
      ⟨writtenString k ++ ':' :: ' ' :: (indented n v ++ rest), line, column⟩) (k, w) rest := by
  have key := readString_written k (':' :: ' ' :: (indented n v ++ rest)) line (column + 1)
  have colon : ∀ line column, (Cursor.mk (':' :: ' ' :: (indented n v ++ rest)) line column).skip =
      ⟨':' :: ' ' :: (indented n v ++ rest), line, column⟩ := skipFrom_cons rfl _
  unfold readField writtenString
  rw [List.cons_append, List.append_assoc]
  refine key.bind fun line column => ?_
  dsimp only
  rw [colon]
  show Leaves (readValue depth ⟨' ' :: (indented n v ++ rest), line, column + 1⟩ >>= _) _ _
  rw [readValue_blank]
  exact (hv.reads h _ _).bind fun line column => ⟨line, column, rfl⟩

theorem readFields_moreFields : ∀ {fields : List (String × Value)} {fuel : Nat} (done : Fields)
    (line column : Nat), (∀ f ∈ fields, Takes depth n f.2 f.2.sorted) → fields.length < fuel →
      Leaves (readFields (readValue depth) fuel false done
        ⟨moreFields n fields ++ (newLine m ++ '\x7d' :: rest), line, column⟩)
        (.obj ((sortedFields fields).foldl (fun t (k, v) => Sorted.insert k v t) done)) rest
  | _, 0, _, _, _, _, h => absurd h (Nat.not_lt_zero _)
  | [], fuel + 1, done, line, column, _, _ =>
    readFields_end false (skipFrom_newLine rfl m rest line column)
  | (k, v) :: fields, fuel + 1, done, line, column, takes, h => by
    have head := readField_written (takes (k, v) (List.mem_cons_self ..))
      (apart_moreFields n m fields ('\x7d' :: rest)) k
    have tail := fun line column => readFields_moreFields (done.insert k v.sorted) line column
      (fun f hf => takes f (List.mem_cons_of_mem _ hf)) (Nat.lt_of_succ_lt_succ h)
    rw [moreFields, indentedFields_cons]
    unfold writtenString at *
    simp only [List.cons_append, List.append_assoc] at *
    exact readFields_next (skipFrom_cons rfl _ _ _) (skipFrom_newLine rfl n _ _ _) (head _ _) tail

theorem readFields_indentedFields {k : String} {v : Value} {fields : List (String × Value)}
    {fuel : Nat}
    (takes : ∀ f ∈ (k, v) :: fields, Takes depth n f.2 f.2.sorted) (h : fields.length < fuel)
    (line column : Nat) :
    Leaves (readFields (readValue depth) (fuel + 1) true []
      ⟨indentedFields n ((k, v) :: fields) ++ (newLine m ++ '\x7d' :: rest), line, column⟩)
      (.obj (Fields.ofList (sortedFields ((k, v) :: fields)))) rest := by
  have head := readField_written (takes (k, v) (List.mem_cons_self ..))
    (apart_moreFields n m fields ('\x7d' :: rest)) k
  have tail := fun line column =>
    readFields_moreFields (m := m) rest (Fields.insert k v.sorted []) line column
    (fun f hf => takes f (List.mem_cons_of_mem _ hf)) h
  rw [indentedFields_cons]
  unfold writtenString at *
  simp only [List.cons_append, List.append_assoc] at *
  exact readFields_first (skipFrom_newLine rfl n _ _ _) (head _ _) tail

end

theorem length_le_indentedItems (n : Nat) :
    ∀ items : List Value, items.length ≤ (indentedItems n items).length
  | [] => Nat.zero_le _
  | [v] => by rw [indentedItems_cons]; simp [newLine]
  | v :: w :: items => by
    have := length_le_indentedItems n (w :: items)
    rw [indentedItems_cons, moreItems]
    simp only [List.length_append, List.length_cons] at *
    omega

theorem length_le_indentedFields (n : Nat) :
    ∀ fields : List (String × Value), fields.length ≤ (indentedFields n fields).length
  | [] => Nat.zero_le _
  | [(k, v)] => by rw [indentedFields_cons]; simp [newLine]
  | (k, v) :: f :: fields => by
    have := length_le_indentedFields n (f :: fields)
    rw [indentedFields_cons, moreFields]
    simp only [List.length_append, List.length_cons] at *
    omega

theorem readValue_digit {x : Char} (digit : x.isDigit) (depth : Nat) (cs : List Char)
    (line column : Nat) :
    readValue depth ⟨x :: cs, line, column⟩ =
      readNumber false ⟨x :: cs, line, column⟩ >>= fun (n, c) => pure (.num n, c) := by
  have skip : (Cursor.mk (x :: cs) line column).skip = ⟨x :: cs, line, column⟩ :=
    skipFrom_cons (isSpace_of_isDigit digit) ..
  unfold readValue
  dsimp only
  rw [skip]
  split
  case h_1 e => cases e
  case h_9 e =>
    cases e
    exact if_pos digit
  all_goals
    rename_i e
    cases e
    exact absurd digit (by decide)

theorem readValue_intText {depth : Nat} {i : Int} {rest : List Char} (low : Number.minSigned ≤ i)
    (high : i ≤ Number.maxUnsigned) (h : Apart rest) (line column : Nat) :
    Leaves (readValue depth ⟨Decimal.intText i ++ rest, line, column⟩) (.num (.int i)) rest := by
  unfold Number.minSigned at low
  unfold Number.maxUnsigned at high
  have small : i.natAbs ≤ maxDigits := by unfold maxDigits; omega
  unfold Decimal.intText
  by_cases negative : i < 0
  · have number := readNumber_natText true h small (fun _ => by omega) line (column + 1)
    have minus : (if true = true then -(i.natAbs : Int) else i.natAbs) = i := by
      rw [if_pos rfl]; omega
    rw [minus] at number
    rw [if_pos negative]
    unfold readValue
    exact number.bind fun line column => ⟨line, column, rfl⟩
  · have number := readNumber_natText false h small (nomatch ·) line column
    have plain : (if false = true then -(i.natAbs : Int) else i.natAbs) = i := by
      rw [if_neg Bool.false_ne_true]; omega
    rw [plain] at number
    rw [if_neg negative]
    obtain ⟨d, ds, hd, digit⟩ := exists_natText_eq i.natAbs
    rw [hd, List.cons_append] at number ⊢
    rw [readValue_digit digit]
    exact number.bind fun line column => ⟨line, column, rfl⟩

theorem readValue_bracket (depth : Nat) (cs : List Char) (line column : Nat) :
    readValue (depth + 1) ⟨'[' :: cs, line, column⟩ =
      readItems (readValue depth) (cs.length + 2) true [] ⟨cs, line, column + 1⟩ := by
  rw [readValue]
  rfl

theorem readValue_brace (depth : Nat) (cs : List Char) (line column : Nat) :
    readValue (depth + 1) ⟨'\x7b' :: cs, line, column⟩ =
      readFields (readValue depth) (cs.length + 2) true [] ⟨cs, line, column + 1⟩ := by
  rw [readValue]
  rfl

/-- **Reading back.** A written value is read as itself, with the fields of its objects in order. -/
theorem readValue_indented {depth : Nat} {v : Value} (h : Exact depth v) (n : Nat)
    {rest : List Char} (apart : Apart rest) (line column : Nat) :
    Leaves (readValue depth ⟨indented n v ++ rest, line, column⟩) v.sorted rest := by
  induction h generalizing n rest line column with
  | null => exact ⟨line, column + 4, by unfold readValue; rfl⟩
  | bool b => cases b with
    | true => exact ⟨line, column + 4, by unfold readValue; rfl⟩
    | false => exact ⟨line, column + 5, by unfold readValue; rfl⟩
  | int low high => exact readValue_intText low high apart line column
  | @str depth s =>
    show Leaves (readValue depth ⟨writtenString s ++ rest, line, column⟩) _ _
    unfold writtenString readValue
    rw [List.cons_append, List.append_assoc]
    exact (readString_written s rest line (column + 1)).bind fun line column => ⟨line, column, rfl⟩
  | @arr depth items h ih => cases items with
    | nil => exact ⟨line, column + 2, by unfold readValue; rfl⟩
    | cons v items =>
      have takes : ∀ u ∈ v :: items, Takes depth (n + 1) u u.sorted := fun u hu =>
        ⟨exists_indented_eq (h u hu) _, ih u hu _⟩
      have text : indented n (.arr (v :: items)) ++ rest =
          '[' :: (indentedItems (n + 1) (v :: items) ++ (newLine n ++ ']' :: rest)) := by
        simp [indented]
      rw [text, readValue_bracket]
      -- each item is read with one unit of fuel, and there is one for each character
      refine readItems_indentedItems rest takes ?_ line (column + 1)
      have long := length_le_indentedItems (n + 1) (v :: items)
      simp only [List.length_append, List.length_cons] at *
      omega
  | @obj depth fields h ih => cases fields with
    | nil => exact ⟨line, column + 2, by unfold readValue; rfl⟩
    | cons f fields =>
      have takes : ∀ g ∈ f :: fields, Takes depth (n + 1) g.2 g.2.sorted := fun g hg =>
        ⟨exists_indented_eq (h g hg) _, ih g hg _⟩
      have text : indented n (.obj (f :: fields)) ++ rest =
          '\x7b' :: (indentedFields (n + 1) (f :: fields) ++ (newLine n ++ '\x7d' :: rest)) := by
        simp [indented]
      rw [text, readValue_brace]
      refine readFields_indentedFields rest takes ?_ line (column + 1)
      have long := length_le_indentedFields (n + 1) (f :: fields)
      simp only [List.length_append, List.length_cons] at *
      omega

theorem skipFrom_blanks : ∀ (cs : List Char) (line column : Nat), cs.all isSpace →
    (skipFrom line column cs).rest = []
  | [], _, _, _ => rfl
  | x :: cs, line, column, h => by
    rw [List.all_cons, Bool.and_eq_true] at h
    have ih := fun line column => skipFrom_blanks cs line column h.2
    unfold skipFrom
    split
    · exact ih ..
    · rw [if_pos h.1]
      exact ih ..

theorem read_indentedText {v : Value} (h : Exact 127 v) {s : String}
    (blank : s.toList.all isSpace) :
    read (v.indentedText ++ s) = .ok v.sorted := by
  have apart : Apart s.toList := by
    cases hs : s.toList with
    | nil => exact fun x hx => nomatch hx
    | cons x cs =>
      rw [hs, List.all_cons, Bool.and_eq_true] at blank
      exact apart_cons (.inr blank.1)
  obtain ⟨line, column, value⟩ := readValue_indented h 0 apart 1 0
  have rest : (Cursor.mk s.toList line column).skip.rest = [] :=
    skipFrom_blanks s.toList line column blank
  unfold read indentedText Cursor.start
  rw [String.toList_append, String.toList_ofList, value]
  simp only [bind, Except.bind]
  rw [rest]
  rfl

end ViewWeave.Data
