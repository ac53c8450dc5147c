import EntityForge.Proofs.Model.Naming
import EntityForge.Proofs.Text.Ascii

/-!
# Camel forms

The words of a name in ASCII are what stands between its underscores, and its class and field forms
are made of them alone, whatever case they are written in. Either form is the words one after
another, if case is ignored, so nothing is lost but the places where the words meet. These are
marked by the capitals, if every word begins with a letter: a capital stands at the head of each
word, but for the first one of a field form, and nowhere else. Then the words can be read off either
form.
-/

namespace EntityForge.Model

open Text (Ascii Ends clusters)

/-! ### Words -/

/-- The words of a name with case dropped: what stands between underscores, less the empty pieces,
in lower case. -/
def loweredWords (name : String) : List (List Char) :=
  ((name.toList.splitOn '_').filter (· ≠ [])).map (·.map Char.toLower)

/-- Clusters that have no underscore inside are split at underscores as their text is. -/
theorem map_flatten_splitOnP {pieces : List (List Char)}
    (h : ∀ piece ∈ pieces, '_' ∈ piece → piece = ['_']) :
    (pieces.splitOnP (· == ['_'])).map List.flatten = pieces.flatten.splitOn '_' := by
  induction pieces with
  | nil => simp
  | cons piece rest ih =>
    have hrest := ih fun piece hpiece => h piece (List.mem_cons_of_mem _ hpiece)
    obtain ⟨first, others, hsplit⟩ :=
      List.exists_cons_of_ne_nil (List.splitOnP_ne_nil (· == ['_']) rest)
    rw [List.splitOnP_cons_eq_if_modifyHead, List.flatten_cons]
    by_cases hpiece : piece = ['_']
    · subst hpiece
      simp only [List.singleton_append, List.splitOn_cons_eq_if_modifyHead, beq_self_eq_true,
        if_true, List.map_cons, List.flatten_nil, hrest]
    · have hfree : '_' ∉ piece := fun hmem => hpiece (h piece List.mem_cons_self hmem)
      rw [Text.splitOn_append_left hfree, ← hrest, hsplit]
      simp [hpiece]

/-- The words of a name in ASCII are what stands between its underscores. -/
theorem words_of_ascii {name : List Char} (h : Ascii name) :
    words name = (name.splitOn '_').filter (· ≠ []) := by
  have hpieces : ∀ piece ∈ (clusters name).splitOnP (· == ['_']), ∀ cluster ∈ piece,
      cluster ≠ [] := by
    intro piece hpiece cluster hcluster
    have hmem : cluster ∈ ((clusters name).splitOnP (· == ['_'])).flatten :=
      List.mem_flatten.mpr ⟨piece, hpiece, hcluster⟩
    rw [Text.flatten_splitOnP] at hmem
    exact ne_nil_of_mem_clusters (List.mem_filter.mp hmem).1
  have hsplit := map_flatten_splitOnP fun cluster =>
    @Text.eq_underscore_of_mem_clusters name h cluster
  rw [flatten_clusters] at hsplit
  rw [words, ← hsplit]
  generalize (clusters name).splitOnP (· == ['_']) = pieces at hpieces ⊢
  induction pieces with
  | nil => rfl
  | cons piece rest ih =>
    obtain ⟨hpiece, hrest⟩ := List.forall_mem_cons.mp hpieces
    rw [List.filterMap_cons, List.map_cons, ih hrest]
    cases piece with
    | nil => simp
    | cons cluster piece => simp [hpiece cluster List.mem_cons_self]

theorem ascii_of_mem_splitOn {cs piece : List Char} (h : Ascii cs)
    (hpiece : piece ∈ cs.splitOn '_') : Ascii piece := by
  intro c hc
  have hmem : c ∈ (cs.splitOnP (· == '_')).flatten := List.mem_flatten.mpr ⟨piece, hpiece, hc⟩
  rw [Text.flatten_splitOnP] at hmem
  exact h c (List.mem_filter.mp hmem).1

/-- A word in lower case. -/
structure Lowered (word : List Char) : Prop where
  /-- The word has a character. -/
  ne_nil : word ≠ []
  /-- All its characters are in ASCII. -/
  ascii : Ascii word
  /-- They are their own lower case. -/
  toLower : ∀ c ∈ word, c.toLower = c

theorem lowered_of_mem {name : String} (h : Ascii name.toList) {word : List Char}
    (hword : word ∈ loweredWords name) : Lowered word := by
  obtain ⟨piece, hpiece, rfl⟩ := List.mem_map.mp hword
  obtain ⟨hpiece, hne⟩ := List.mem_filter.mp hpiece
  have hascii := ascii_of_mem_splitOn h hpiece
  refine ⟨by simpa using hne, fun c hc => ?_, fun c hc => ?_⟩
  · obtain ⟨d, hd, rfl⟩ := List.mem_map.mp hc
    exact Text.toNat_toLower_lt (hascii d hd)
  · obtain ⟨d, hd, rfl⟩ := List.mem_map.mp hc
    exact Text.toLower_toLower (hascii d hd)

/-- A name without words is made of underscores. -/
theorem eq_underscore_of_loweredWords {name : String} (h : loweredWords name = []) {c : Char}
    (hc : c ∈ name.toList) : c = '_' := by
  by_contra hne
  have hmem : c ∈ (name.toList.splitOnP (· == '_')).flatten := by
    rw [Text.flatten_splitOnP]
    exact List.mem_filter.mpr ⟨hc, by simpa using hne⟩
  obtain ⟨piece, hpiece, hcpiece⟩ := List.mem_flatten.mp hmem
  have hnil : piece = [] := by
    simpa using List.filter_eq_nil_iff.mp (List.map_eq_nil_iff.mp h) piece hpiece
  rw [hnil] at hcpiece
  cases hcpiece

/-! ### Forms -/

/-- A word with its first letter in upper case. -/
def capital : List Char → List Char
  | [] => []
  | c :: cs => c.toUpper :: cs

theorem capitalized_of_ascii {word : List Char} (h : Ascii word) :
    capitalized word = capital (word.map Char.toLower) := by
  cases word with
  | nil => rfl
  | cons c cs =>
    obtain ⟨hc, hcs⟩ := Text.ascii_cons.mp h
    rw [List.map_cons, capital, Text.toUpper_toLower hc, capitalized]
    rcases Text.clusters_cons_of_ascii h with hfirst | ⟨rest, rfl, rfl, hfirst⟩
    · simp only [hfirst, flatten_clusters, Text.lowerText_of_ascii hcs, Text.upperText,
        List.flatMap_singleton, Text.upper_of_ascii hc, List.singleton_append]
    · simp only [hfirst, flatten_clusters, Text.lowerText_of_ascii (Text.ascii_cons.mp hcs).2]
      rfl

theorem map_capitalized {pieces : List (List Char)} (h : ∀ piece ∈ pieces, Ascii piece) :
    pieces.flatMap capitalized = (pieces.map (·.map Char.toLower)).flatMap capital := by
  rw [List.flatMap_map]
  exact List.flatMap_congr fun piece hpiece => capitalized_of_ascii (h piece hpiece)

theorem ascii_of_mem_words {name : List Char} (h : Ascii name) :
    ∀ piece ∈ (name.splitOn '_').filter (· ≠ []), Ascii piece :=
  fun _ hpiece => ascii_of_mem_splitOn h (List.mem_filter.mp hpiece).1

/-- The class form is the words, each with a capital. -/
theorem toList_upperCamel {name : String} (h : Ascii name.toList) :
    (upperCamel name).toList = (loweredWords name).flatMap capital := by
  rw [upperCamel, String.toList_ofList, words_of_ascii h, map_capitalized (ascii_of_mem_words h),
    loweredWords]

/-- The field form is the words, each but the first with a capital. -/
theorem toList_lowerCamel {name : String} (h : Ascii name.toList) :
    (lowerCamel name).toList =
      (loweredWords name).headD [] ++ (loweredWords name).tail.flatMap capital := by
  have hascii := ascii_of_mem_words h
  rw [lowerCamel, words_of_ascii h, loweredWords]
  generalize (name.toList.splitOn '_').filter (· ≠ []) = pieces at hascii ⊢
  cases pieces with
  | nil => rfl
  | cons first rest =>
    obtain ⟨hfirst, hrest⟩ := List.forall_mem_cons.mp hascii
    simp only [String.toList_ofList, Text.lowerText_of_ascii hfirst, map_capitalized hrest,
      List.map_cons, List.headD_cons, List.tail_cons]

/-! ### Words in the forms -/

theorem map_toLower_capital {word : List Char} (h : Lowered word) :
    (capital word).map Char.toLower = word := by
  obtain ⟨c, cs, rfl⟩ := List.exists_cons_of_ne_nil h.ne_nil
  obtain ⟨hc, hcs⟩ := List.forall_mem_cons.mp h.toLower
  rw [capital, List.map_cons, Text.toLower_toUpper (Text.ascii_cons.mp h.ascii).1, hc,
    List.map_congr_left hcs, List.map_id']

/-- Words with capitals are the words, if case is ignored. -/
theorem map_toLower_flatMap_capital {ws : List (List Char)} (h : ∀ w ∈ ws, Lowered w) :
    (ws.flatMap capital).map Char.toLower = ws.flatten := by
  rw [List.map_flatMap, ← List.flatMap_id]
  exact List.flatMap_congr fun w hw => map_toLower_capital (h w hw)

/-- The class form is the words one after another, if case is ignored. -/
theorem map_toLower_upperCamel {name : String} (h : Ascii name.toList) :
    (upperCamel name).toList.map Char.toLower = (loweredWords name).flatten := by
  rw [toList_upperCamel h, map_toLower_flatMap_capital fun w => lowered_of_mem h]

/-- The field form is the words one after another, if case is ignored. -/
theorem map_toLower_lowerCamel {name : String} (h : Ascii name.toList) :
    (lowerCamel name).toList.map Char.toLower = (loweredWords name).flatten := by
  rw [toList_lowerCamel h]
  have hlowered : ∀ w ∈ loweredWords name, Lowered w := fun w => lowered_of_mem h
  generalize loweredWords name = ws at hlowered ⊢
  cases ws with
  | nil => rfl
  | cons w ws =>
    obtain ⟨hw, hws⟩ := List.forall_mem_cons.mp hlowered
    rw [List.headD_cons, List.tail_cons, List.map_append, map_toLower_flatMap_capital hws,
      List.map_congr_left hw.toLower, List.map_id', List.flatten_cons]

theorem flatten_loweredWords_eq_nil {name : String} (h : Ascii name.toList) :
    (loweredWords name).flatten = [] ↔ loweredWords name = [] := by
  constructor
  · intro hflatten
    by_contra hne
    obtain ⟨w, ws, hws⟩ := List.exists_cons_of_ne_nil hne
    have hmem : w ∈ loweredWords name := hws ▸ List.mem_cons_self
    exact (lowered_of_mem h hmem).ne_nil (List.flatten_eq_nil_iff.mp hflatten w hmem)
  · intro hnil
    rw [hnil]
    rfl

/-- A text whose lower case is that of the words of a name is empty just where there is no word. -/
theorem eq_empty_iff_of_words {name form : String} (h : Ascii name.toList)
    (hform : form.toList.map Char.toLower = (loweredWords name).flatten) :
    form = "" ↔ loweredWords name = [] := by
  rw [← flatten_loweredWords_eq_nil h, ← hform, List.map_eq_nil_iff, ← String.toList_inj]
  rfl

/-! ### Reading the words off the forms -/

/-- A word that begins with a letter. -/
def BeginsWithLetter (word : List Char) : Prop :=
  ∃ c ∈ word.head?, c.isAlpha = true

instance (word : List Char) : Decidable (BeginsWithLetter word) :=
  decidable_of_iff (word.head?.any Char.isAlpha = true) (by cases word <;> simp [BeginsWithLetter])

/-- Names in ASCII whose words begin with letters. -/
structure Lettered (name : String) : Prop where
  /-- The characters are in ASCII. -/
  ascii : Ascii name.toList
  /-- Every word begins with a letter. -/
  letter : ∀ word ∈ loweredWords name, BeginsWithLetter word

instance (name : String) : Decidable (Lettered name) :=
  decidable_of_iff (Ascii name.toList ∧ ∀ word ∈ loweredWords name, BeginsWithLetter word)
    ⟨fun h => ⟨h.1, h.2⟩, fun h => ⟨h.ascii, h.letter⟩⟩

/-- Words in lower case that begin with letters. -/
def Regular (ws : List (List Char)) : Prop :=
  ∀ w ∈ ws, Lowered w ∧ BeginsWithLetter w

theorem Lettered.regular {name : String} (h : Lettered name) : Regular (loweredWords name) :=
  fun w hw => ⟨lowered_of_mem h.ascii hw, h.letter w hw⟩

/-- A word in lower case has no capital. -/
theorem Lowered.isUpper {word : List Char} (h : Lowered word) :
    ∀ c ∈ word, (!c.isUpper) = true := by
  intro c hc
  rw [← h.toLower c hc, Text.isUpper_toLower (h.ascii c hc)]
  rfl

/-- Where words with capitals begin, a capital stands. -/
theorem Regular.ends {ws : List (List Char)} (h : Regular ws) :
    Ends (fun c => !c.isUpper) (ws.flatMap capital) := by
  cases ws with
  | nil => exact Text.ends_nil _
  | cons w ws =>
    obtain ⟨hw, c, hc, halpha⟩ := h w List.mem_cons_self
    obtain ⟨cs, rfl⟩ := List.head?_eq_some_iff.mp hc
    rw [List.flatMap_cons, capital, List.cons_append]
    refine Text.ends_cons _ ?_
    rw [Text.isUpper_toUpper (Text.ascii_cons.mp hw.ascii).1 halpha]
    rfl

/-- Words that begin with letters can be read off what they make with capitals: a capital stands at
the head of each word and nowhere else. -/
theorem flatMap_capital_inj {ws ws' : List (List Char)} (h : Regular ws) (h' : Regular ws')
    (heq : ws.flatMap capital = ws'.flatMap capital) : ws = ws' := by
  induction ws generalizing ws' with
  | nil =>
    cases ws' with
    | nil => rfl
    | cons w' ws' =>
      obtain ⟨c, cs, rfl⟩ := List.exists_cons_of_ne_nil (h' w' List.mem_cons_self).1.ne_nil
      cases heq
  | cons w ws ih =>
    obtain ⟨hw, hws⟩ := List.forall_mem_cons.mp h
    obtain ⟨c, cs, rfl⟩ := List.exists_cons_of_ne_nil hw.1.ne_nil
    cases ws' with
    | nil => cases heq
    | cons w' ws' =>
      obtain ⟨hw', hws'⟩ := List.forall_mem_cons.mp h'
      obtain ⟨c', cs', rfl⟩ := List.exists_cons_of_ne_nil hw'.1.ne_nil
      simp only [List.flatMap_cons, capital, List.cons_append, List.cons.injEq] at heq
      obtain ⟨hupper, hrest⟩ := heq
      have hc : c = c' := by
        have hlower := congrArg Char.toLower hupper
        rwa [Text.toLower_toUpper (hw.1.ascii c List.mem_cons_self),
          Text.toLower_toUpper (hw'.1.ascii c' List.mem_cons_self),
          hw.1.toLower c List.mem_cons_self, hw'.1.toLower c' List.mem_cons_self] at hlower
      obtain ⟨hcs, hrest⟩ := Text.append_inj_of_ends
        (fun d hd => hw.1.isUpper d (List.mem_cons_of_mem c hd))
        (fun d hd => hw'.1.isUpper d (List.mem_cons_of_mem c' hd))
        (Regular.ends hws) (Regular.ends hws') hrest
      rw [hc, hcs, ih hws hws' hrest]

/-- Words that begin with letters can be read off what they make with capitals on all but the
first. -/
theorem headD_append_inj {ws ws' : List (List Char)} (h : Regular ws) (h' : Regular ws')
    (heq : ws.headD [] ++ ws.tail.flatMap capital = ws'.headD [] ++ ws'.tail.flatMap capital) :
    ws = ws' := by
  cases ws with
  | nil =>
    cases ws' with
    | nil => rfl
    | cons w' ws' =>
      exact absurd (List.append_eq_nil_iff.mp heq.symm).1 (h' w' List.mem_cons_self).1.ne_nil
  | cons w ws =>
    obtain ⟨hw, hws⟩ := List.forall_mem_cons.mp h
    cases ws' with
    | nil => exact absurd (List.append_eq_nil_iff.mp heq).1 hw.1.ne_nil
    | cons w' ws' =>
      obtain ⟨hw', hws'⟩ := List.forall_mem_cons.mp h'
      obtain ⟨hfirst, hrest⟩ := Text.append_inj_of_ends hw.1.isUpper hw'.1.isUpper
        (Regular.ends hws) (Regular.ends hws') heq
      rw [show w = w' from hfirst, flatMap_capital_inj hws hws' hrest]

variable {a b : String}

theorem upperCamel_eq_of_words (ha : Ascii a.toList) (hb : Ascii b.toList)
    (h : loweredWords a = loweredWords b) : upperCamel a = upperCamel b := by
  rw [← String.toList_inj, toList_upperCamel ha, toList_upperCamel hb, h]

theorem lowerCamel_eq_of_words (ha : Ascii a.toList) (hb : Ascii b.toList)
    (h : loweredWords a = loweredWords b) : lowerCamel a = lowerCamel b := by
  rw [← String.toList_inj, toList_lowerCamel ha, toList_lowerCamel hb, h]

/-- Two names have one class form just where they have the same words. -/
theorem upperCamel_inj_iff (ha : Lettered a) (hb : Lettered b) :
    upperCamel a = upperCamel b ↔ loweredWords a = loweredWords b := by
  refine ⟨fun h => ?_, upperCamel_eq_of_words ha.ascii hb.ascii⟩
  rw [← String.toList_inj, toList_upperCamel ha.ascii, toList_upperCamel hb.ascii] at h
  exact flatMap_capital_inj ha.regular hb.regular h

/-- Two names have one field form just where they have the same words. -/
theorem lowerCamel_inj_iff (ha : Lettered a) (hb : Lettered b) :
    lowerCamel a = lowerCamel b ↔ loweredWords a = loweredWords b := by
  refine ⟨fun h => ?_, lowerCamel_eq_of_words ha.ascii hb.ascii⟩
  rw [← String.toList_inj, toList_lowerCamel ha.ascii, toList_lowerCamel hb.ascii] at h
  exact headD_append_inj ha.regular hb.regular h

/-! ### Field names -/

/-- Two names have the same words, if case is ignored, and where they have none they are the same
name. -/
def SameWords (a b : String) : Prop :=
  loweredWords a = loweredWords b ∧ (loweredWords a = [] → a = b)

instance (a b : String) : Decidable (SameWords a b) :=
  inferInstanceAs (Decidable (_ ∧ _))

theorem fieldName_of_no_words (ha : Ascii a.toList) (h : loweredWords a = []) :
    Naming.fieldName a = a := by
  rw [Naming.fieldName, orElseName,
    if_pos ((eq_empty_iff_of_words ha (map_toLower_lowerCamel ha)).mpr h)]

theorem fieldName_of_words (ha : Ascii a.toList) (h : loweredWords a ≠ []) :
    Naming.fieldName a = lowerCamel a :=
  orElseName_of_ne (mt (eq_empty_iff_of_words ha (map_toLower_lowerCamel ha)).mp h) a

/-- A name without words is no field form. -/
theorem ne_lowerCamel (ha : loweredWords a = []) (hb : Lettered b) (h : loweredWords b ≠ []) :
    a ≠ lowerCamel b := by
  rintro rfl
  obtain ⟨w, ws, hws⟩ := List.exists_cons_of_ne_nil h
  obtain ⟨c, hc, halpha⟩ := hb.letter w (hws ▸ List.mem_cons_self)
  obtain ⟨cs, rfl⟩ := List.head?_eq_some_iff.mp hc
  have hmem : c ∈ (lowerCamel b).toList := by
    rw [toList_lowerCamel hb.ascii, hws]
    exact List.mem_cons_self
  rw [eq_underscore_of_loweredWords ha hmem] at halpha
  exact absurd halpha (by decide)

/-- Two columns have one field name just where their names have the same words, or are the same if
they have none. -/
theorem fieldName_inj_iff (ha : Lettered a) (hb : Lettered b) :
    Naming.fieldName a = Naming.fieldName b ↔ SameWords a b := by
  rw [SameWords]
  by_cases hwa : loweredWords a = []
  · rw [fieldName_of_no_words ha.ascii hwa, hwa]
    by_cases hwb : loweredWords b = []
    · rw [fieldName_of_no_words hb.ascii hwb, hwb]
      simp
    · rw [fieldName_of_words hb.ascii hwb]
      exact iff_of_false (ne_lowerCamel hwa hb hwb) fun h => hwb h.1.symm
  · rw [fieldName_of_words ha.ascii hwa]
    by_cases hwb : loweredWords b = []
    · rw [fieldName_of_no_words hb.ascii hwb, hwb]
      exact iff_of_false (ne_lowerCamel hwb ha hwa).symm fun h => hwa h.1
    · rw [fieldName_of_words hb.ascii hwb, lowerCamel_inj_iff ha hb]
      simp [hwa]

end EntityForge.Model
