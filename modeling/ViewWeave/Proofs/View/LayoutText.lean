import ViewWeave.Proofs.Yaml.Events
import ViewWeave.View.LayoutText

/-!
# Reading view layouts

A text of lines with a key and a value each is read as the standard layout with the given values in
place of its own. The order of the lines does not matter, and a value is taken as it is written,
whatever else it might stand for. A field that is given twice is a fault, and so is a key that is
too long.
-/

namespace ViewWeave

namespace LayoutText

open Yaml

/-! ## Entries -/

@[ext] structure Entry where
  key : String
  value : String
  deriving DecidableEq, Repr

def Entry.text (e : Entry) : String := e.key ++ ": " ++ e.value

def entriesText (es : List Entry) : String := "\n".intercalate (es.map Entry.text)

namespace Entry

def line (e : Entry) : Line := ⟨e.key.toList, e.value.toList⟩

/-- Key and value need no quotes, and what is given for escaping is a truth value. -/
structure IsPlain (e : Entry) : Prop where
  nonempty : e.key ≠ ""
  key : ∀ c ∈ e.key.toList, isKeyChar c
  value : ∀ c ∈ e.value.toList, isWordChar c
  start : e.value.toList.head? ≠ some '-'
  truth : e.key = Field.autoescape.text → e.value = "true" ∨ e.value = "false"

instance (e : Entry) : Decidable e.IsPlain :=
  decidable_of_iff (e.key ≠ "" ∧ e.key.toList.all isKeyChar ∧ e.value.toList.all isWordChar ∧
    e.value.toList.head? ≠ some '-' ∧
    (e.key = Field.autoescape.text → e.value = "true" ∨ e.value = "false"))
    ⟨fun ⟨nonempty, key, value, start, truth⟩ =>
        ⟨nonempty, List.all_eq_true.mp key, List.all_eq_true.mp value, start, truth⟩,
      fun h => ⟨h.nonempty, List.all_eq_true.mpr h.key, List.all_eq_true.mpr h.value, h.start,
        h.truth⟩⟩

theorem IsPlain.line {e : Entry} (h : e.IsPlain) : e.line.IsPlain :=
  ⟨by simpa [Entry.line] using h.nonempty, h.key, h.value, h.start⟩

theorem isShort_line (e : Entry) : e.line.IsShort ↔ e.key.length ≤ 1024 := by
  rw [← String.length_toList]
  rfl

end Entry

theorem toList_entriesText (es : List Entry) :
    (entriesText es).toList = linesText (es.map Entry.line) := by
  have source : String.toList ∘ Entry.text = Line.source ∘ Entry.line := by
    funext e
    simp [Entry.text, Line.source, Entry.line]
  simp [entriesText, linesText, source]

def known (es : List Entry) : List Field := es.filterMap fun e => Field.of? e.key.toList

/-- What entries give for a field. -/
def given (es : List Entry) (f : Field) : Option String :=
  (es.find? fun e => e.key == f.text).map Entry.value

end LayoutText

def ViewLayout.replaced (v : ViewLayout) (given : LayoutText.Field → Option String) :
    ViewLayout where
  layoutsRoot := (given .layoutsRoot).getD v.layoutsRoot
  pagesRoot := (given .pagesRoot).getD v.pagesRoot
  sharedRoot := (given .sharedRoot).getD v.sharedRoot
  fragmentExtension := (given .fragmentExtension).getD v.fragmentExtension
  nameMarker := (given .nameMarker).getD v.nameMarker
  autoescape := ((given .autoescape).map (· == "true")).getD v.autoescape

namespace LayoutText

open Yaml

/-! ## Fields -/

theorem Field.of?_eq_some_iff {s : List Char} {f : Field} :
    Field.of? s = some f ↔ s = f.text.toList := by
  constructor
  · intro h
    have fits := List.find?_some h
    exact (beq_iff_eq.mp fits).symm
  · rintro rfl
    cases f <;> rfl

theorem Field.text_injective {f g : Field} (h : f.text = g.text) : f = g := by
  have same := Field.of?_eq_some_iff.mpr (congrArg String.toList h)
  rw [Field.of?_eq_some_iff.mpr rfl] at same
  exact Option.some.inj same

def Field.put (f : Field) (s : String) (v : ViewLayout) : ViewLayout :=
  if f = .autoescape then { v with autoescape := s == "true" } else f.setText s v

theorem replaced_update (v : ViewLayout) (given : Field → Option String) (f : Field) (s : String) :
    v.replaced (Function.update given f (some s)) =
      (f.put s v).replaced (Function.update given f none) := by
  cases f <;> simp [ViewLayout.replaced, Field.put, Field.setText, Function.update]

theorem set_entry {e : Entry} (h : e.IsPlain) {f : Field} (hf : Field.of? e.key.toList = some f)
    (path : List Char) (p : Place) (v : ViewLayout) :
    f.set path ⟨.scalar none none e.value.toList .plain, p⟩ v = .ok (f.put e.value v) := by
  have key : e.key = f.text := String.toList_inj.mp (Field.of?_eq_some_iff.mp hf)
  cases f with
  | autoescape =>
    rcases h.truth key with truth | truth
    · rw [truth]
      rfl
    · rw [truth]
      rfl
  | _ => simp [Field.set, Field.put]

/-! ## What entries give -/

section
variable {e : Entry} {es : List Entry} {f : Field}

theorem known_of_unknown (h : Field.of? e.key.toList = none) : known (e :: es) = known es :=
  List.filterMap_cons_none h

theorem known_of_known (h : Field.of? e.key.toList = some f) : known (e :: es) = f :: known es :=
  List.filterMap_cons_some h

theorem given_cons (e : Entry) (es : List Entry) (f : Field) :
    given (e :: es) f = if e.key = f.text then some e.value else given es f := by
  unfold given
  by_cases key : e.key = f.text
  · simp [key]
  · simp [key]

theorem given_of_unknown (h : Field.of? e.key.toList = none) : given (e :: es) = given es := by
  funext f
  rw [given_cons, if_neg]
  intro key
  rw [Field.of?_eq_some_iff.mpr (congrArg String.toList key)] at h
  cases h

theorem given_of_known (h : Field.of? e.key.toList = some f) :
    given (e :: es) = Function.update (given es) f (some e.value) := by
  have key : e.key = f.text := String.toList_inj.mp (Field.of?_eq_some_iff.mp h)
  funext g
  rw [given_cons, key, Function.update_apply]
  by_cases same : g = f
  · rw [same, if_pos rfl, if_pos rfl]
  · rw [if_neg same, if_neg fun text => same (Field.text_injective text.symm)]

theorem mem_known : f ∈ known es ↔ ∃ s, ⟨f.text, s⟩ ∈ es := by
  unfold known
  simp only [List.mem_filterMap, Field.of?_eq_some_iff, String.toList_inj]
  constructor
  · rintro ⟨⟨k, s⟩, mem, rfl⟩
    exact ⟨s, mem⟩
  · rintro ⟨s, mem⟩
    exact ⟨_, mem, rfl⟩

theorem given_eq_none (h : f ∉ known es) : given es f = none := by
  unfold given
  rw [Option.map_eq_none_iff, List.find?_eq_none]
  rintro ⟨k, s⟩ mem key
  rw [beq_iff_eq] at key
  subst key
  exact h (mem_known.mpr ⟨s, mem⟩)

/-- With each field given at most once it does not matter where it is given. -/
theorem given_eq_some_iff (once : (known es).Nodup) {s : String} :
    given es f = some s ↔ ⟨f.text, s⟩ ∈ es := by
  induction es with
  | nil => simp [given]
  | cons e es ih =>
    have tail : (known es).Nodup := once.sublist ((List.sublist_cons_self e es).filterMap _)
    rw [given_cons, List.mem_cons]
    by_cases key : e.key = f.text
    · have away : (⟨f.text, s⟩ : Entry) ∉ es := by
        intro mem
        rw [known_of_known (Field.of?_eq_some_iff.mpr (congrArg String.toList key)),
          List.nodup_cons] at once
        exact once.1 (mem_known.mpr ⟨s, mem⟩)
      rw [if_pos key, ← key]
      simp [away, Entry.ext_iff, key, eq_comm]
    · have other : (⟨f.text, s⟩ : Entry) ≠ e := by
        rintro rfl
        exact key rfl
      rw [if_neg key, ih tail]
      simp [other]

theorem given_perm {fs : List Entry} (h : fs.Perm es) (once : (known es).Nodup) :
    given fs = given es := by
  have once' : (known fs).Nodup := (h.filterMap _).nodup_iff.mpr once
  funext f
  ext s
  rw [given_eq_some_iff once', given_eq_some_iff once, h.mem_iff]

end

/-! ## Pairs -/

section
variable {start p q : Place} {fuel : Nat} {seen : List Field} {v : ViewLayout}
  {ms : List (Marked × Bool)}

section
variable {e : Entry} (plain : e.IsPlain)

theorem readPairs_unknown (h : Field.of? e.key.toList = none) :
    readPairs start (fuel + 1) seen v ((e.line.events p).map (·, false) ++ ms) =
      readPairs start fuel seen v ms := by
  simp [Line.events, Entry.line, readPairs, h, skipNode]

variable {f : Field} (h : Field.of? e.key.toList = some f)
include h

theorem readPairs_known (plain : e.IsPlain) (fresh : f ∉ seen) :
    readPairs start (fuel + 1) seen v ((e.line.events p).map (·, false) ++ ms) =
      readPairs start fuel (f :: seen) (f.put e.value v) ms := by
  simp [Line.events, Entry.line, readPairs, h, fresh, set_entry plain h]

theorem readPairs_seen (old : f ∈ seen) :
    readPairs start (fuel + 1) seen v ((e.line.events p).map (·, false) ++ ms) =
      .error (.mismatch s!"duplicate field `{f.text}`{placeText start}") := by
  simp [Line.events, Entry.line, readPairs, h, old]

end

variable {es : List Entry} (plain : ∀ e ∈ es, e.IsPlain) (enough : es.length < fuel)
include plain enough

/-- With each field given at most once all pairs are read; the induction is on the entries. -/
theorem readPairs_entries (once : (known es ++ seen).Nodup) :
    readPairs start fuel seen v
    ((lineEvents p (es.map Entry.line)).map (·, false) ++ (⟨.mappingEnd, q⟩, false) :: ms) =
      .ok (v.replaced (given es)) := by
  obtain ⟨fuel, rfl⟩ : ∃ n, fuel = n + 1 := ⟨fuel - 1, by omega⟩
  induction es generalizing fuel p seen v with
  | nil => rfl
  | cons e es ih =>
    have tail := fun m hm => plain m (List.mem_cons_of_mem e hm)
    obtain ⟨fuel, rfl⟩ : ∃ n, fuel = n + 1 := ⟨fuel - 1, by simp at enough; omega⟩
    have less : es.length < fuel + 1 := Nat.lt_of_succ_lt_succ enough
    rw [List.map_cons, lineEvents, List.map_append, List.append_assoc]
    cases hf : Field.of? e.key.toList with
    | none =>
      rw [known_of_unknown hf] at once
      rw [readPairs_unknown hf, ih tail once fuel less, given_of_unknown hf]
    | some f =>
      rw [known_of_known hf, List.cons_append] at once
      have spread : (known es ++ f :: seen).Nodup := List.perm_middle.nodup_iff.mpr once
      rw [List.nodup_cons, List.mem_append, not_or] at once
      have nothing : Function.update (given es) f none = given es := by
        rw [← given_eq_none once.1.1, Function.update_eq_self]
      rw [readPairs_known hf (plain e (List.mem_cons_self ..)) once.1.2, ih tail spread fuel less,
        given_of_known hf, replaced_update, nothing]

theorem readPairs_repeated (fresh : seen.Nodup) (twice : ¬(known es ++ seen).Nodup) :
    ∃ f, 2 ≤ (known es ++ seen).count f ∧
      readPairs start fuel seen v ((lineEvents p (es.map Entry.line)).map (·, false) ++ ms) =
        .error (.mismatch s!"duplicate field `{f.text}`{placeText start}") := by
  induction es generalizing fuel p seen v with
  | nil => exact absurd fresh twice
  | cons e es ih =>
    have tail := fun m hm => plain m (List.mem_cons_of_mem e hm)
    obtain ⟨fuel, rfl⟩ : ∃ n, fuel = n + 1 := ⟨fuel - 1, by simp at enough; omega⟩
    have less : es.length < fuel := Nat.lt_of_succ_lt_succ enough
    rw [List.map_cons, lineEvents, List.map_append, List.append_assoc]
    cases hf : Field.of? e.key.toList with
    | none =>
      rw [known_of_unknown hf] at twice ⊢
      rw [readPairs_unknown hf]
      exact ih tail less fresh twice
    | some f =>
      have moved : (known (e :: es) ++ seen).Perm (known es ++ f :: seen) := by
        rw [known_of_known hf]
        exact List.perm_middle.symm
      by_cases old : f ∈ seen
      · refine ⟨f, ?_, readPairs_seen hf old⟩
        have more := List.count_pos_iff.mpr old
        rw [moved.count_eq, List.count_append, List.count_cons_self]
        omega
      · rw [readPairs_known hf (plain e (List.mem_cons_self ..)) old]
        have still : ¬(known es ++ f :: seen).Nodup := fun all => twice (moved.nodup_iff.mpr all)
        obtain ⟨g, count, read⟩ := ih tail less (List.nodup_cons.mpr ⟨old, fresh⟩) still
        exact ⟨g, moved.count_eq g ▸ count, read⟩

end

/-! ## Aliases -/

/-- Events without anchors and aliases stand for themselves. -/
theorem resolve_append {es : List Marked}
    (h : ∀ m ∈ es, anchor? m.event = none ∧ m.event ≠ .documentEnd ∧
      ∀ name, m.event ≠ .alias name) (known : List (List Char × Marked)) (p : Place)
    (rest : List Marked) :
    resolve known (es ++ ⟨.documentEnd, p⟩ :: rest) = (es.map (·, false), true, rest) := by
  induction es with
  | nil => rfl
  | cons m es ih =>
    obtain ⟨anchor, going, itself⟩ := h m (List.mem_cons_self ..)
    have tail := ih fun n hn => h n (List.mem_cons_of_mem m hn)
    rw [List.cons_append, resolve]
    split
    · contradiction
    · rename_i name heq
      exact absurd heq (itself name)
    · rw [anchor]
      dsimp only
      rw [tail]
      rfl

theorem resolve_unended {ms : List Marked} (h : ∀ m ∈ ms, m.event ≠ .documentEnd)
    (known : List (List Char × Marked)) :
    (resolve known ms).2.1 = false := by
  induction ms generalizing known with
  | nil => rfl
  | cons m ms ih =>
    have tail := ih fun n hn => h n (List.mem_cons_of_mem m hn)
    have going := h m (List.mem_cons_self ..)
    rw [resolve]
    split
    · contradiction
    · split
      · rfl
      · exact tail known
    · exact tail _

/-! ## Texts -/

theorem ofText_blank {text : String} (h : ∀ c ∈ text.toList, Text.isBlank c) :
    ViewLayout.ofText text = .ok .standard := by
  unfold ViewLayout.ofText
  rw [if_pos (List.all_eq_true.mpr h)]

section
variable {text : String} (solid : ∃ c ∈ text.toList, Text.isBlank c = false) {p q : Place}
  {es : List Marked} (given : (events text.toList).1 = ⟨.documentStart, p⟩ :: es)
include solid given

theorem ofText_whole {doc : List (Marked × Bool)}
    (whole : resolve [] es = (doc, true, [⟨.streamEnd, q⟩])) :
    ViewLayout.ofText text = readDocument doc := by
  have some : ¬(text.toList.all Text.isBlank = true) := by
    simpa using solid
  unfold ViewLayout.ofText
  rw [if_neg some, given]
  dsimp only
  rw [whole]
  dsimp only
  cases readDocument doc with
  | error fault => rfl
  | ok v => rfl

theorem ofText_unended (unended : (resolve [] es).2.1 = false) :
    ∃ fault, ViewLayout.ofText text = .error fault := by
  have some : ¬(text.toList.all Text.isBlank = true) := by
    simpa using solid
  unfold ViewLayout.ofText
  rw [if_neg some, given]
  dsimp only
  rw [unended]
  cases readDocument (resolve [] es).1 with
  | error fault => exact ⟨fault, rfl⟩
  | ok v => exact ⟨.malformed, rfl⟩

end

section
variable {es : List Entry} (plain : ∀ e ∈ es, e.IsPlain)

theorem exists_solid (some : es ≠ []) : ∃ c ∈ (entriesText es).toList, Text.isBlank c = false := by
  obtain ⟨e, es, rfl⟩ := List.exists_cons_of_ne_nil some
  refine ⟨':', ?_, rfl⟩
  rw [toList_entriesText, List.map_cons, linesText_cons]
  simp [Line.source]

include plain

theorem isPlain_map_line : ∀ l ∈ es.map Entry.line, l.IsPlain := by
  intro l hl
  obtain ⟨e, he, rfl⟩ := List.mem_map.mp hl
  exact (plain e he).line

theorem ofText_long (long : ∃ e ∈ es, 1024 < e.key.length) :
    ∃ fault, ViewLayout.ofText (entriesText es) = .error fault := by
  obtain ⟨e, he, hlong⟩ := long
  have line : ∃ l ∈ es.map Entry.line, ¬l.IsShort :=
    ⟨e.line, List.mem_map_of_mem he, fun short => Nat.not_le_of_lt hlong (e.isShort_line.mp short)⟩
  obtain ⟨ms, read, unended⟩ := events_long (isPlain_map_line plain) line
  rw [← toList_entriesText] at read
  exact ofText_unended (exists_solid (List.ne_nil_of_mem he)) read (resolve_unended unended [])

theorem ofText_short (short : ∀ e ∈ es, e.key.length ≤ 1024) (some : es ≠ []) :
    ∃ fuel q, es.length < fuel ∧
    ViewLayout.ofText (entriesText es) = readPairs ⟨0, 0, 0⟩ fuel [] .standard
      ((lineEvents ⟨0, 0, 0⟩ (es.map Entry.line)).map (·, false) ++
        [(⟨.mappingEnd, q⟩, false)]) := by
  have lines : ∀ l ∈ es.map Entry.line, l.IsShort := by
    intro l hl
    obtain ⟨e, he, rfl⟩ := List.mem_map.mp hl
    exact e.isShort_line.mpr (short e he)
  obtain ⟨q, read⟩ := events_lines (isPlain_map_line plain) lines (by simpa using some)
  rw [← toList_entriesText] at read
  have bare : ∀ m ∈ ⟨.mappingStart none, ⟨0, 0, 0⟩⟩ ::
      (lineEvents ⟨0, 0, 0⟩ (es.map Entry.line) ++ [⟨.mappingEnd, q⟩]),
      anchor? m.event = none ∧ m.event ≠ .documentEnd ∧ ∀ name, m.event ≠ .alias name := by
    intro m hm
    rw [List.mem_cons, List.mem_append, List.mem_singleton] at hm
    rcases hm with rfl | hm | rfl
    · simp [anchor?]
    · obtain ⟨w, r, rfl⟩ := exists_of_mem_lineEvents hm
      simp [anchor?]
    · simp [anchor?]
  -- all of the text is one document, so nothing but the end is left behind it
  have whole := resolve_append bare [] q [⟨.streamEnd, q⟩]
  rw [List.cons_append, List.append_assoc, List.map_cons, List.map_append] at whole
  refine ⟨_, q, ?_, ofText_whole (exists_solid some) read whole⟩
  simp [length_lineEvents]
  omega

theorem ofText_given (short : ∀ e ∈ es, e.key.length ≤ 1024) (once : (known es).Nodup) :
    ViewLayout.ofText (entriesText es) = .ok (ViewLayout.standard.replaced (given es)) := by
  by_cases some : es = []
  · subst some
    exact ofText_blank (by simp [entriesText])
  · obtain ⟨fuel, q, enough, read⟩ := ofText_short plain short some
    rw [read, readPairs_entries plain enough (by simpa using once)]

theorem ofText_repeated (short : ∀ e ∈ es, e.key.length ≤ 1024) (twice : ¬(known es).Nodup) :
    ∃ f, 2 ≤ (known es).count f ∧
      ViewLayout.ofText (entriesText es) = .error (.mismatch s!"duplicate field `{f.text}`") := by
  have some : es ≠ [] := by
    rintro rfl
    exact twice List.nodup_nil
  obtain ⟨fuel, q, enough, read⟩ := ofText_short plain short some
  obtain ⟨f, count, fault⟩ := readPairs_repeated plain enough List.nodup_nil (by simpa using twice)
  refine ⟨f, by simpa using count, ?_⟩
  rw [read, fault]
  simp [placeText, toString]

end

/-- **Layouts of lines.** If no key is longer than 1024 characters and no field is given twice, the
standard layout is read with the given values in place of its own, in whatever order they are given;
otherwise the text is refused. Of white space the standard layout is read. -/
theorem ofText_entries {es : List Entry} (plain : ∀ e ∈ es, e.IsPlain) :
    ((∀ e ∈ es, e.key.length ≤ 1024) → (known es).Nodup → ∀ fs : List Entry, fs.Perm es →
      ViewLayout.ofText (entriesText fs) = .ok (ViewLayout.standard.replaced (given es))) ∧
    (¬(known es).Nodup → ∃ fault, ViewLayout.ofText (entriesText es) = .error fault) ∧
    ((∃ e ∈ es, 1024 < e.key.length) → ∃ fault, ViewLayout.ofText (entriesText es) = .error fault) ∧
    ∀ text : String, (∀ c ∈ text.toList, Text.isBlank c) →
    ViewLayout.ofText text = .ok .standard := by
  refine ⟨fun short once fs perm => ?_, fun twice => ?_, ofText_long plain,
    fun text => ofText_blank⟩
  · have once' : (known fs).Nodup := (perm.filterMap _).nodup_iff.mpr once
    rw [ofText_given (fun e he => plain e (perm.subset he))
      (fun e he => short e (perm.subset he)) once', given_perm perm once]
  · by_cases short : ∀ e ∈ es, e.key.length ≤ 1024
    · obtain ⟨f, -, fault⟩ := ofText_repeated plain short twice
      exact ⟨_, fault⟩
    · exact ofText_long plain (by simpa using short)

def lookalikes : List Entry :=
  [⟨"name_marker", "0x1F"⟩, ⟨"null", "12"⟩, ⟨"autoescape", "false"⟩, ⟨"pages_root", "null"⟩]

def repeated : List Entry := [⟨"shared_root", "a"⟩, ⟨"x", ""⟩, ⟨"shared_root", "a"⟩]

theorem ofText_entries_lookalikes :
    ViewLayout.ofText "pages_root: null\nautoescape: false\nnull: 12\nname_marker: 0x1F" =
      .ok { ViewLayout.standard with
        nameMarker := "0x1F", autoescape := false, pagesRoot := "null" } ∧
    (∃ fault, ViewLayout.ofText "shared_root: a\nx: \nshared_root: a" = .error fault) ∧
    ViewLayout.ofText " \n" = .ok .standard := by
  have plain : ∀ e ∈ lookalikes, e.IsPlain := by decide
  have plain' : ∀ e ∈ repeated, e.IsPlain := by decide
  exact ⟨(ofText_entries plain).1 (by decide) (by decide) lookalikes.reverse (List.reverse_perm _),
    (ofText_entries plain').2.1 (by decide),
    (ofText_entries plain).2.2.2 _ (List.all_eq_true.mp (by decide))⟩

def letters (n : Nat) : Entry := ⟨String.ofList (List.replicate n 'a'), "y"⟩

theorem length_letters (n : Nat) : (letters n).key.length = n := by
  rw [letters, String.length_ofList, List.length_replicate]

theorem ne_letters {n : Nat} {s : String} {c : Char} (mem : c ∈ s.toList) (other : c ≠ 'a') :
    s ≠ (letters n).key := by
  rintro rfl
  rw [letters, String.toList_ofList] at mem
  exact other (List.eq_of_mem_replicate mem)

theorem isPlain_letters {n : Nat} (h : 0 < n) : (letters n).IsPlain := by
  have word : "y".toList.all isWordChar := by decide
  refine ⟨?nonempty, ?key, List.all_eq_true.mp word, by simp [letters], ?truth⟩
  case nonempty =>
    intro empty
    have length := length_letters n
    rw [empty, String.length_empty] at length
    omega
  case key =>
    intro c mem
    rw [letters, String.toList_ofList] at mem
    rw [List.eq_of_mem_replicate mem]
    rfl
  case truth =>
    have other : 'u' ∈ Field.autoescape.text.toList := by decide
    exact fun key => absurd key.symm (ne_letters other (by decide))

def longKey : List Entry := [⟨"pages_root", "x"⟩, letters 1025]

/-- Plain entries with distinct keys are refused for the length of a key alone. -/
theorem ofText_longKey : (∀ e ∈ longKey, e.IsPlain) ∧ (longKey.map Entry.key).Nodup ∧
    ∃ fault, ViewLayout.ofText (entriesText longKey) = .error fault := by
  have plain : ∀ e ∈ longKey, e.IsPlain := by
    intro e he
    rcases List.mem_pair.mp he with rfl | rfl
    · decide
    · exact isPlain_letters (Nat.succ_pos _)
  have other : 'p' ∈ "pages_root".toList := by decide
  have apart : "pages_root" ≠ (letters 1025).key := ne_letters other (by decide)
  refine ⟨plain, ?_, ofText_long plain
    ⟨letters 1025, List.mem_cons_of_mem _ (List.mem_cons_self ..), ?_⟩⟩
  · exact List.nodup_cons.mpr
      ⟨fun mem => apart (List.mem_singleton.mp mem), List.pairwise_singleton ..⟩
  · rw [length_letters]
    exact Nat.lt_succ_self _

end LayoutText

end ViewWeave
