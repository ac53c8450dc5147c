import EntityForge.Model.Extraction
import EntityForge.Proofs.Json.Records
import EntityForge.Proofs.Model.NameSets
import EntityForge.Proofs.Text.Runs
import Mathlib.Data.List.Dedup

/-!
# Tables of column types

A table that is made from a list of entries has each keyword of the list once, in ascending order,
with the type of the last entry for it. A column type is looked up by what stands in front of its
first parenthesis, without the blanks around it, so neither a length nor a blank decides what is
found. Where nothing is found the column type is refused as it is written.
-/

namespace EntityForge.Model

open Text (Ends isBlank)

/-! ### Keywords -/

/-- The keyword of a column type: what stands in front of its first parenthesis, or all of it, less
the blanks around. -/
structure IsKeyword (columnType k : String) : Prop where
  /-- The keyword is followed by a parenthesis or by nothing, blanks aside. -/
  front : ∃ before after rest, columnType.toList = before ++ k.toList ++ after ++ rest ∧
    (∀ c ∈ before, isBlank c = true) ∧ (∀ c ∈ after, isBlank c = true) ∧ '(' ∉ k.toList ∧
    ∀ c ∈ rest.head?, c = '('
  /-- It does not begin with a blank. -/
  first : ∀ c ∈ k.toList.head?, isBlank c = false
  /-- It does not end with a blank. -/
  last : ∀ c ∈ k.toList.getLast?, isBlank c = false

theorem ne_of_isBlank {c : Char} (h : isBlank c = true) : c ≠ '(' := by
  rintro rfl
  revert h
  decide

theorem isKeyword_keyword (columnType : String) : IsKeyword columnType (keyword columnType) := by
  obtain ⟨before, after, hfront, hbefore, hafter⟩ :=
    Text.exists_trimChars (columnType.toList.takeWhile (· != '('))
  have hkeyword : (keyword columnType).toList =
      Text.trimChars (columnType.toList.takeWhile (· != '(')) := String.toList_ofList
  refine ⟨⟨before, after, columnType.toList.dropWhile (· != '('), ?_, hbefore, hafter, ?_, ?_⟩,
    ?_, ?_⟩
  · rw [hkeyword, ← hfront, List.takeWhile_append_dropWhile]
  · rw [hkeyword]
    intro hmem
    simpa using List.mem_takeWhile_imp (Text.mem_of_mem_trimChars hmem)
  · intro c hc
    simpa using Text.ends_dropWhile (· != '(') columnType.toList c hc
  · rw [hkeyword]
    exact Text.ends_trimChars _
  · rw [hkeyword, ← List.head?_reverse]
    exact Text.ends_reverse_trimChars _

/-- A column type has one keyword. -/
theorem isKeyword_iff {columnType k : String} :
    IsKeyword columnType k ↔ k = keyword columnType := by
  refine ⟨fun h => ?_, fun h => h ▸ isKeyword_keyword columnType⟩
  obtain ⟨before, after, rest, hcolumn, hbefore, hafter, hk, hrest⟩ := h.front
  have hrun : ∀ c ∈ before ++ k.toList ++ after, (c != '(') = true := by
    intro c hc
    rw [bne_iff_ne]
    rcases List.mem_append.mp hc with hc | hc
    · rcases List.mem_append.mp hc with hc | hc
      · exact ne_of_isBlank (hbefore c hc)
      · exact fun heq => hk (heq ▸ hc)
    · exact ne_of_isBlank (hafter c hc)
  have hend : Ends (· != '(') rest := fun c hc => by simp [hrest c hc]
  have hlast : Ends isBlank k.toList.reverse := by
    rw [Ends, List.head?_reverse]
    exact h.last
  rw [keyword, hcolumn, Text.takeWhile_append_of_ends hrun hend,
    Text.trimChars_append _ hbefore hafter, Text.trimChars_eq_self h.first hlast,
    String.ofList_toList]

/-- What stands behind a parenthesis is no part of the keyword. -/
theorem keyword_append_parenthesis (k s : String) : keyword (k ++ "(" ++ s) = keyword k := by
  obtain ⟨⟨before, after, rest, hk, hbefore, hafter, hkeyword, hrest⟩, hfirst, hlast⟩ :=
    isKeyword_keyword k
  refine (isKeyword_iff.mp ⟨⟨before, after, rest ++ '(' :: s.toList, ?_, hbefore, hafter, hkeyword,
    ?_⟩, hfirst, hlast⟩).symm
  · simp only [String.toList_append, hk, String.reduceToList, List.append_assoc, List.cons_append,
      List.nil_append]
  · cases rest with
    | nil => simp
    | cons c rest => exact hrest

/-- Blanks around a column type are no part of the keyword. -/
theorem keyword_append_blanks {left right : String} (k : String)
    (hleft : ∀ c ∈ left.toList, isBlank c = true) (hright : ∀ c ∈ right.toList, isBlank c = true) :
    keyword (left ++ k ++ right) = keyword k := by
  obtain ⟨⟨before, after, rest, hk, hbefore, hafter, hkeyword, hrest⟩, hfirst, hlast⟩ :=
    isKeyword_keyword k
  have hbefore' : ∀ c ∈ left.toList ++ before, isBlank c = true := List.forall_mem_append.mpr
    ⟨hleft, hbefore⟩
  cases rest with
  | nil =>
    have hafter' : ∀ c ∈ after ++ right.toList, isBlank c = true := List.forall_mem_append.mpr
      ⟨hafter, hright⟩
    refine (isKeyword_iff.mp ⟨⟨left.toList ++ before, after ++ right.toList, [], ?_, hbefore',
      hafter', hkeyword, by simp⟩, hfirst, hlast⟩).symm
    simp only [String.toList_append, hk, List.append_assoc, List.append_nil]
  | cons c rest =>
    refine (isKeyword_iff.mp ⟨⟨left.toList ++ before, after, c :: rest ++ right.toList, ?_, hbefore',
      hafter, hkeyword, hrest⟩, hfirst, hlast⟩).symm
    simp only [String.toList_append, hk, List.append_assoc]

/-! ### Entries -/

/-- A type is that of the last entry for a keyword. -/
def LastFor (entries : List (String × JavaType)) (k : String) (t : JavaType) : Prop :=
  ∃ before after, entries = before ++ (k, t) :: after ∧ ∀ entry ∈ after, entry.1 ≠ k

theorem not_lastFor_nil (k : String) (t : JavaType) : ¬ LastFor [] k t := by
  rintro ⟨before, after, h, -⟩
  simp at h

/-- One more entry at the end is the last one for its keyword, and decides nothing else. -/
theorem lastFor_concat {entries : List (String × JavaType)} {entry : String × JavaType} {k : String}
    {t : JavaType} :
    LastFor (entries ++ [entry]) k t ↔ (k, t) = entry ∨ LastFor entries k t ∧ k ≠ entry.1 := by
  constructor
  · rintro ⟨before, after, heq, hafter⟩
    rcases List.eq_nil_or_concat after with rfl | ⟨after, last, rfl⟩
    · exact .inl (List.singleton_inj.mp (List.append_inj' heq rfl).2).symm
    · rw [List.concat_eq_append, ← List.cons_append, ← List.append_assoc] at heq
      obtain ⟨hentries, hlast⟩ := List.append_inj' heq rfl
      obtain rfl := List.singleton_inj.mp hlast
      rw [List.concat_eq_append, List.forall_mem_append] at hafter
      exact .inr ⟨⟨before, after, hentries, hafter.1⟩, (hafter.2 entry List.mem_cons_self).symm⟩
  · rintro (rfl | ⟨⟨before, after, rfl, hafter⟩, hne⟩)
    · exact ⟨entries, [], rfl, by simp⟩
    · refine ⟨before, after ++ [entry], by simp, List.forall_mem_append.mpr ⟨hafter, ?_⟩⟩
      exact List.forall_mem_singleton.mpr hne.symm

theorem exists_lastFor_iff {entries : List (String × JavaType)} {k : String} :
    (∃ t, LastFor entries k t) ↔ k ∈ entries.map Prod.fst := by
  induction entries using List.reverseRecOn with
  | nil => simp [not_lastFor_nil]
  | append_singleton entries entry ih =>
    obtain ⟨k', t'⟩ := entry
    simp only [lastFor_concat, exists_or, exists_and_right, ih, List.map_append, List.mem_append,
      List.map_cons, List.map_nil, List.mem_singleton, Prod.mk.injEq]
    by_cases hk : k = k' <;> simp [hk]

namespace TypeTable

variable {types : TypeTable}

theorem nodup_keywords (types : TypeTable) : (types.entries.map Prod.fst).Nodup :=
  List.pairwise_map.mpr (types.ascending.imp fun hlt => String.ne_of_lt hlt)

/-- A look-up finds the entry for the keyword. -/
theorem lookup_eq_some {columnType : String} {t : JavaType} :
    types.lookup columnType = some t ↔ (keyword columnType, t) ∈ types.entries := by
  rw [lookup, Option.map_eq_some_iff]
  constructor
  · rintro ⟨⟨k, t⟩, hfind, rfl⟩
    obtain rfl : k = keyword columnType := by simpa using List.find?_some hfind
    exact List.mem_of_find?_eq_some hfind
  · intro h
    have hfind : types.entries.find? (Prod.fst · == Prod.fst (keyword columnType, t)) = _ :=
      Json.find?_of_nodup types.nodup_keywords h
    exact ⟨_, hfind, rfl⟩

/-- What is mapped is what a look-up finds, and what is refused is the column type as it is
written. -/
theorem map_eq_ok {columnType : String} {t : JavaType} :
    types.map columnType = .ok t ↔ types.lookup columnType = some t := by
  rw [map]
  cases types.lookup columnType <;> simp

theorem map_eq_error {columnType : String} {u : UnmappedType} :
    types.map columnType = .error u ↔
      types.lookup columnType = none ∧ u.columnType = columnType := by
  rw [map]
  obtain ⟨_⟩ := u
  cases types.lookup columnType <;> simp [eq_comm]

theorem mem_insert {entry x : String × JavaType} :
    x ∈ (types.insert entry).entries ↔ x = entry ∨ x ∈ types.entries ∧ x.1 ≠ entry.1 :=
  mem_insertAscending_iff types.ascending

theorem mem_entries_ofList {entries : List (String × JavaType)} {k : String} {t : JavaType} :
    (k, t) ∈ (ofList entries).entries ↔ LastFor entries k t := by
  induction entries using List.reverseRecOn with
  | nil => exact iff_of_false List.not_mem_nil (not_lastFor_nil k t)
  | append_singleton entries entry ih =>
    have hconcat : ofList (entries ++ [entry]) = (ofList entries).insert entry :=
      List.foldl_concat _ _ _ _
    rw [hconcat, mem_insert, lastFor_concat, ih]

/-- The keywords of a table are those of the entries that it is made from. -/
theorem mem_keywords_ofList {entries : List (String × JavaType)} {k : String} :
    k ∈ (ofList entries).entries.map Prod.fst ↔ k ∈ entries.map Prod.fst := by
  have hlast : (∃ t, LastFor entries k t) ↔ k ∈ entries.map Prod.fst := exists_lastFor_iff
  rw [← hlast, List.mem_map]
  simp only [← mem_entries_ofList, Prod.exists, exists_and_right, exists_eq_right]

/-- A table has each keyword of its entries once. -/
theorem size_ofList (entries : List (String × JavaType)) :
    (ofList entries).size = (entries.map Prod.fst).dedup.length := by
  have hperm := (List.perm_ext_iff_of_nodup (ofList entries).nodup_keywords
    (List.nodup_dedup _)).mpr fun k => mem_keywords_ofList.trans List.mem_dedup.symm
  rw [size, ← hperm.length_eq, List.length_map]

/-- Nothing is found for a column type whose keyword no entry has. -/
theorem lookup_ofList_eq_none {entries : List (String × JavaType)} {columnType : String} :
    (ofList entries).lookup columnType = none ↔
      ∀ entry ∈ entries, entry.1 ≠ keyword columnType := by
  have hlast : (∃ t, LastFor entries (keyword columnType) t) ↔ _ := exists_lastFor_iff
  rw [Option.eq_none_iff_forall_ne_some, ← not_exists]
  simp only [lookup_eq_some, mem_entries_ofList, hlast, List.mem_map, not_exists, not_and]

/-- A table made from entries gives a column type the type of the last entry for its keyword, and
refuses a column type whose keyword no entry has. Neither what follows a parenthesis nor blanks
around matter. The table lists each keyword once, in ascending order, with the type of the last
entry for it. -/
theorem lookup_ofList (entries : List (String × JavaType)) :
    (∀ columnType k, IsKeyword columnType k ↔ k = keyword columnType) ∧
    (∀ columnType,
      (∀ t, (ofList entries).lookup columnType = some t ↔
        LastFor entries (keyword columnType) t) ∧
      ((ofList entries).lookup columnType = none ↔
        ∀ entry ∈ entries, entry.1 ≠ keyword columnType) ∧
      (∀ t, (ofList entries).map columnType = .ok t ↔
        (ofList entries).lookup columnType = some t) ∧
      ∀ u, (ofList entries).map columnType = .error u ↔
        (ofList entries).lookup columnType = none ∧ u.columnType = columnType) ∧
    (∀ k s, (ofList entries).lookup (k ++ "(" ++ s) = (ofList entries).lookup k) ∧
    (∀ left k right : String, (∀ c ∈ left.toList, isBlank c = true) →
      (∀ c ∈ right.toList, isBlank c = true) →
      (ofList entries).lookup (left ++ k ++ right) = (ofList entries).lookup k) ∧
    (∀ k t, (k, t) ∈ (ofList entries).entries ↔ LastFor entries k t) ∧
    ((ofList entries).entries.map Prod.fst).Pairwise (· < ·) ∧
    (ofList entries).size = (entries.map Prod.fst).dedup.length := by
  refine ⟨fun columnType k => isKeyword_iff, fun columnType => ⟨fun t => ?_,
    lookup_ofList_eq_none, fun t => map_eq_ok, fun u => map_eq_error⟩, fun k s => ?_,
    fun left k right hleft hright => ?_, fun k t => mem_entries_ofList,
    List.pairwise_map.mpr (ofList entries).ascending, size_ofList entries⟩
  · rw [lookup_eq_some, mem_entries_ofList]
  · rw [lookup, lookup, keyword_append_parenthesis]
  · rw [lookup, lookup, keyword_append_blanks k hleft hright]

/-- Entries with a keyword that occurs twice, one that no column type has, and the empty one. -/
def overlappingEntries : List (String × JavaType) :=
  [("int", .integer), ("", .boolean), ("number", .double), (" int", .date), ("int", .long)]

/-- The later entry counts, whatever follows the parentheses and whatever blanks are around. -/
theorem lookup_overlappingEntries :
    (∀ c ∈ "\u2003".toList, isBlank c = true) ∧ (∀ c ∈ " ".toList, isBlank c = true) ∧
      (ofList overlappingEntries).lookup "\u2003int (4(2) unsigned)" = some .long ∧
      (ofList overlappingEntries).lookup "(4)" = some .boolean ∧
      (ofList overlappingEntries).map "INT (4)" = .error ⟨"INT (4)"⟩ ∧
      (ofList overlappingEntries).size = 4 := by
  obtain ⟨-, hcolumn, hparenthesis, hblanks, -, -, hsize⟩ := lookup_ofList overlappingEntries
  have hlast : LastFor overlappingEntries (keyword "int") .long :=
    ⟨overlappingEntries.dropLast, [], by decide +kernel, by simp⟩
  have hleft : ∀ c ∈ "\u2003".toList, isBlank c = true :=
    List.all_eq_true.mp (by decide)
  have hright : ∀ c ∈ " ".toList, isBlank c = true :=
    List.all_eq_true.mp (by decide)
  refine ⟨hleft, hright, ?_, ?_, ?_, ?_⟩
  · have hspaced : (ofList overlappingEntries).lookup ("\u2003" ++ "int" ++ " ") = _ :=
      hblanks "\u2003" "int" " " hleft hright
    have hsuffix := hparenthesis ("\u2003" ++ "int" ++ " ") "4(2) unsigned)"
    rw [hspaced, ((hcolumn "int").1 .long).mpr hlast] at hsuffix
    exact hsuffix
  · refine ((hcolumn "(4)").1 .boolean).mpr
      ⟨overlappingEntries.take 1, overlappingEntries.drop 2, ?_, ?_⟩ <;> decide +kernel
  · refine ((hcolumn "INT (4)").2.2.2 _).mpr ⟨(hcolumn "INT (4)").2.1.mpr ?_, rfl⟩
    decide +kernel
  · rw [hsize]
    decide +kernel

end TypeTable

end EntityForge.Model
