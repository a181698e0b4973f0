import ViewWeave.Proofs.Text.Mute
import ViewWeave.Render.State

/-!
# Filters and markup

Of a text without markup, filters make values that are printed without markup. One filter writes
markup itself, and some put an argument into the text.
-/

namespace ViewWeave

open Text

/-! ## Printed values -/

namespace Value

theorem mute_display_ofInt (i : Int) : Mute (ofInt i).display := mute_display (.int i)

theorem mute_display_ofFloat (x : Float) : Mute (ofFloat x).display := by
  unfold ofFloat
  split
  · exact mute_display (.float x)
  · exact mute_nil

theorem mute_display_ofList {s : List Char} (h : Mute s) :
    Mute (Value.str (String.ofList s)).display := by
  show Mute (String.ofList s).toList
  rwa [String.toList_ofList]

theorem mute_displayText {v : Value} : Mute v.displayText.toList ↔ Mute v.display := by
  rw [displayText, String.toList_ofList]

theorem mute_display_of_ne : ∀ {v : Value}, (∀ s, v ≠ .str s) → (∀ items, v ≠ .arr items) →
    Mute v.display
  | .null, _, _ => mute_nil
  | .bool b, _, _ => mute_boolText b
  | .num n, _, _ => mute_display n
  | .str s, h, _ => absurd rfl (h s)
  | .arr items, _, h => absurd rfl (h items)
  | .obj _, _, _ => by
    show Mute "[object]".toList
    decide

theorem mute_displayItems : ∀ {vs : List Value}, (∀ v ∈ vs, Mute v.display) → Mute (displayItems vs)
  | [], _ => mute_nil
  | [v], h => h v (List.mem_singleton_self v)
  | v :: w :: vs, h => by
    simp only [List.mem_cons, forall_eq_or_imp] at h
    have rest : Mute (displayItems (w :: vs)) := mute_displayItems (by simpa using h.2)
    show Mute (v.display ++ ',' :: ' ' :: displayItems (w :: vs))
    simp [h.1, rest]

theorem mute_display_arr {vs : List Value} (h : ∀ v ∈ vs, Mute v.display) :
    Mute (Value.arr vs).display := by
  show Mute ('[' :: (displayItems vs ++ [']']))
  simp [mute_displayItems h]

end Value

/-! ## Filters -/

namespace Filter

/-- The arguments that filters put into a text. -/
def inserted : List (String × String) :=
  [("replace", "to"), ("truncate", "end"), ("indent", "prefix"), ("date", "format")]

def MuteArgs (name : String) (args : Fields) : Prop :=
  ∀ key t, (name, key) ∈ inserted → args.get? key = some (.str t) → Mute t.toList

def Keeps (name : String) (f : Filter) : Prop :=
  ∀ s args v, Mute s.toList → MuteArgs name args → f (.str s) args = .ok v → Mute v.display

variable {name : String}

theorem keeps_of_refused {f : Filter} (h : ∀ s args, (f (.str s) args).toOption = none) :
    f.Keeps name := by
  intro s args v _ _ hv
  have none := h s args
  rw [hv] at none
  cases none

theorem keeps_onText {f : List Char → List Char} (hf : ∀ s, Mute s → Mute (f s)) :
    (onText f).Keeps name := by
  intro s args v hs _ hv
  cases hv
  exact Value.mute_display_ofList (hf _ hs)

/-! ## Results -/

theorem bind_eq_ok {ε α β : Type} {x : Except ε α} {f : α → Except ε β} {b : β} :
    x >>= f = .ok b ↔ ∃ a, x = .ok a ∧ f a = .ok b := by
  cases x <;> simp [bind, Except.bind]

theorem text_eq_ok {key t : String} {v : Value} (h : text key v = .ok t) : v = .str t := by
  cases v <;> cases h
  rfl

theorem MuteArgs.argOr {args : Fields} (h : MuteArgs name args) {key fallback t : String}
    (hk : (name, key) ∈ inserted) (hf : Mute fallback.toList)
    (ht : argOr args key fallback text = .ok t) : Mute t.toList := by
  unfold Filter.argOr at ht
  split at ht
  · rename_i v hv
    exact h key t hk (text_eq_ok ht ▸ hv)
  · cases ht
    exact hf

theorem MuteArgs.argElse {args : Fields} (h : MuteArgs name args) {key t : String}
    {missing : FilterFault}
    (hk : (name, key) ∈ inserted) (ht : argElse args key missing text = .ok t) : Mute t.toList := by
  unfold Filter.argElse at ht
  split at ht
  · rename_i v hv
    exact h key t hk (text_eq_ok ht ▸ hv)
  · cases ht

/-! ## Filters on text -/

theorem keeps_split : split.Keeps name := by
  intro s args v hs _ hv
  obtain ⟨_, ⟨⟩, hv⟩ := bind_eq_ok.mp hv
  obtain ⟨p, -, hv⟩ := bind_eq_ok.mp hv
  cases hv
  refine Value.mute_display_arr fun w hw => ?_
  obtain ⟨cs, hcs, rfl⟩ := List.mem_map.mp hw
  exact Value.mute_display_ofList (hs.mono (splitBy_subset hcs))

theorem keeps_replace : replace.Keeps "replace" := by
  intro s args v hs hargs hv
  obtain ⟨_, ⟨⟩, hv⟩ := bind_eq_ok.mp hv
  obtain ⟨p, -, hv⟩ := bind_eq_ok.mp hv
  obtain ⟨q, hq, hv⟩ := bind_eq_ok.mp hv
  cases hv
  exact Value.mute_display_ofList (mute_replace (hargs.argElse (by decide) hq) hs)

theorem keeps_truncate : truncate.Keeps "truncate" := by
  intro s args v hs hargs hv
  obtain ⟨_, ⟨⟩, hv⟩ := bind_eq_ok.mp hv
  obtain ⟨n, -, hv⟩ := bind_eq_ok.mp hv
  obtain ⟨e, he, hv⟩ := bind_eq_ok.mp hv
  cases hv
  split
  · exact hs
  · refine Value.mute_display_ofList (mute_append.mpr ⟨mute_flatten_take_clusters hs n, ?_⟩)
    exact hargs.argOr (by decide) (by decide) he

theorem keeps_wordCount : wordCount.Keeps name := by
  intro s args v _ _ hv
  cases hv
  exact Value.mute_display_ofInt _

theorem keeps_escape : escape.Keeps name := by
  intro s args v _ _ hv
  cases hv
  exact Html.lt_not_mem_escape s

/-- The filter that writes markup itself. -/
def markupFilter : String := "linebreaksbr"

theorem keeps_texts : ∀ x ∈ texts, x.1 ≠ markupFilter → x.2.Keeps x.1 := by
  simp only [texts, List.forall_mem_cons, List.not_mem_nil, false_implies, implies_true, and_true]
  exact ⟨fun _ => keeps_onText fun _ => mute_upper, fun _ => keeps_onText fun _ => mute_lowerFrom,
    fun _ => keeps_onText fun _ => mute_capitalize,
    fun _ => keeps_onText fun _ h => h.mono (trim_subset _),
    fun _ => keeps_onText fun _ h => h.mono (trimStart_subset _),
    fun _ => keeps_onText fun _ h => h.mono (trimEnd_subset _),
    fun _ => keeps_split, fun _ => keeps_replace, fun _ => keeps_truncate, fun _ => keeps_wordCount,
    fun _ => keeps_onText fun _ => mute_addSlashes, fun h => absurd rfl h,
    fun _ => keeps_onText fun _ _ => mute_urlEncode (by decide) _,
    fun _ => keeps_onText fun _ _ => mute_urlEncode rfl _, fun _ => keeps_escape⟩

/-! ## Filters on numbers, arrays and objects -/

theorem keeps_int : int.Keeps name := by
  intro s args v _ _ hv
  obtain ⟨fallback, -, hv⟩ := bind_eq_ok.mp hv
  obtain ⟨base, -, hv⟩ := bind_eq_ok.mp hv
  dsimp only at hv
  split at hv
  · cases hv
    exact Value.mute_display_ofInt _
  · split at hv
    · cases hv
      exact Value.mute_display_ofInt _
    · cases hv
      exact Value.mute_display_ofInt _

theorem keeps_float : float.Keeps name := by
  intro s args v _ _ hv
  obtain ⟨fallback, -, hv⟩ := bind_eq_ok.mp hv
  cases hv
  exact Value.mute_display_ofFloat _

theorem keeps_asText : asText.Keeps name := by
  intro s args v hs _ hv
  cases hv
  exact Value.mute_display_ofList hs

theorem keeps_encode : encode.Keeps name := by
  intro s args v hs _ hv
  have written : v = .str (String.ofList (Value.writtenString s)) := by
    unfold encode at hv
    split at hv <;> exact (Except.ok.inj hv).symm
  rw [written]
  exact Value.mute_display_ofList (mute_writtenString hs)

theorem keeps_length : length.Keeps name := by
  intro s args v _ _ hv
  cases hv
  exact Value.mute_display_ofInt _

theorem keeps_reverse : reverse.Keeps name := by
  intro s args v hs _ hv
  cases hv
  exact Value.mute_display_ofList (mute_reverse.mpr hs)

theorem keeps_get : get.Keeps name := by
  intro s args v _ _ hv
  obtain ⟨key, -, hv⟩ := bind_eq_ok.mp hv
  cases hv

theorem keeps_numbers : ∀ x ∈ numbers, x.2.Keeps x.1 := by
  simp only [numbers, List.forall_mem_cons, List.not_mem_nil, false_implies, implies_true, and_true]
  exact ⟨keeps_of_refused fun _ _ => rfl, keeps_of_refused fun _ _ => rfl,
    keeps_of_refused fun _ _ => rfl, keeps_int, keeps_float, keeps_asText, keeps_encode⟩

theorem keeps_sequences : ∀ x ∈ sequences, x.2.Keeps x.1 := by
  have refused {name : String} {f : Filter} := @keeps_of_refused name f
  simp only [sequences, List.forall_mem_cons, List.not_mem_nil, false_implies, implies_true,
    and_true]
  exact ⟨refused fun _ _ => rfl, refused fun _ _ => rfl, refused fun _ _ => rfl, keeps_length,
    keeps_reverse, refused fun _ _ => rfl, refused fun _ _ => rfl, refused fun _ _ => rfl,
    refused fun _ _ => rfl, refused fun _ _ => rfl, refused fun _ _ => rfl, keeps_get,
    refused fun _ _ => rfl, refused fun _ _ => rfl⟩

end Filter

/-- All filters but one keep a text free of markup, if what they put into it is. -/
theorem keeps_filter? {name : String} {f : Filter} (h : filter? name = some f)
    (hn : name ≠ Filter.markupFilter) : f.Keeps name := by
  obtain ⟨xs, ys, hx, -⟩ := List.lookup_eq_some_iff.mp h
  have mem : (name, f) ∈ Filter.texts ++ Filter.sequences ++ Filter.numbers := by rw [hx]; simp
  rcases List.mem_append.mp mem with mem | mem
  · rcases List.mem_append.mp mem with mem | mem
    · exact Filter.keeps_texts _ mem hn
    · exact Filter.keeps_sequences _ mem
  · exact Filter.keeps_numbers _ mem

/-- The further filters keep a text free of markup, too, if what they put into it is. -/
def Surroundings.KeepMute (around : Surroundings) : Prop :=
  ∀ name f, around.filter? name = some f → f.Keeps name

theorem Surroundings.keepMute_bare : bare.KeepMute := nofun

theorem Job.keeps_filter? {job : Job} (around : job.around.KeepMute) {name : String} {f : Filter}
    (h : job.filter? name = some f) (hn : name ≠ Filter.markupFilter) : f.Keeps name := by
  rcases Option.or_eq_some_iff.mp h with own | ⟨-, further⟩
  · exact ViewWeave.keeps_filter? own hn
  · exact around name f further

end ViewWeave
