import EntityForge.Proofs.Xml.References
import EntityForge.Xml.Tag
import Mathlib.Data.List.TakeWhile

/-!
# Reading tags back

The content of a tag that was written for a name and attributes is read as that name and those
attributes. Qualifiers are cut off, declarations of namespaces are passed over, and no key is taken
for a repeated one: keys of attributes differ in their local names, and no attribute has the key of
a declaration.
-/

namespace EntityForge.Xml

open Grammar
open Text (takeWhile_append_cons dropWhile_append_cons)

/-! ### White space -/

theorem isSpace_of_space {cs : List Char} (h : Space cs) : ∀ c ∈ cs, isSpace c = true := by
  intro c hc
  rcases h c hc with rfl | rfl | rfl | rfl <;> decide

/-- White space in front of another character is read over. -/
theorem dropWhile_isSpace {space : List Char} {c : Char} (cs : List Char) (h : Space space)
    (hc : isSpace c = false) : (space ++ c :: cs).dropWhile isSpace = c :: cs :=
  dropWhile_append_cons cs (isSpace_of_space h) hc

/-! ### Keys -/

theorem ne_of_inName {c d : Char} (h : inName c = true) (hd : inName d = false) : c ≠ d := by
  rintro rfl
  rw [h] at hd
  cases hd

theorem inName_of_startsName {c : Char} (h : startsName c = true) : inName c = true := by
  rw [inName, h]
  rfl

/-- Names with or without a qualifier. -/
def IsKey : List Char → Prop
  | [] => False
  | k :: ks => startsName k = true ∧ ∀ d ∈ ks, inName d = true ∨ d = ':'

theorem inName_of_mem_name {cs : List Char} {d : Char} (h : IsName cs) (hd : d ∈ cs) :
    inName d = true := by
  cases cs with
  | nil => exact h.elim
  | cons c cs =>
    rcases List.mem_cons.mp hd with rfl | hd
    · exact inName_of_startsName h.1
    · exact h.2 d hd

theorem isKey_of_name {cs : List Char} (h : IsName cs) : IsKey cs := by
  cases cs with
  | nil => exact h.elim
  | cons c cs => exact ⟨h.1, fun d hd => .inl (h.2 d hd)⟩

theorem isKey_append {qualifier cs : List Char} (h : IsName qualifier) (hcs : IsName cs) :
    IsKey (qualifier ++ ':' :: cs) := by
  cases qualifier with
  | nil => exact h.elim
  | cons q qs =>
    refine ⟨h.1, fun d hd => ?_⟩
    rcases List.mem_append.mp hd with hd | hd
    · exact .inl (h.2 d hd)
    · rcases List.mem_cons.mp hd with rfl | hd
      · exact .inr rfl
      · exact .inl (inName_of_mem_name hcs hd)

theorem isKey_of_qualified {name : String} {key : List Char} (hname : IsName name.toList)
    (h : Qualified name key) : IsKey key := by
  cases h with
  | bare => exact isKey_of_name hname
  | qualified hq _ => exact isKey_append hq hname

theorem isName_xmlns : IsName xmlns := by
  decide

theorem isKey_of_declarationKey {key : List Char} (h : DeclarationKey key) : IsKey key := by
  cases h with
  | default => exact isKey_of_name isName_xmlns
  | named hq => exact isKey_append isName_xmlns hq

theorem ne_of_mem_key {key : List Char} {d x : Char} (h : IsKey key) (hd : d ∈ key)
    (hx : inName x = false) (hcolon : x ≠ ':') : d ≠ x := by
  cases key with
  | nil => exact h.elim
  | cons k ks =>
    rcases List.mem_cons.mp hd with rfl | hd
    · exact ne_of_inName (inName_of_startsName h.1) hx
    · rcases h.2 d hd with hin | rfl
      · exact ne_of_inName hin hx
      · exact hcolon.symm

/-- No white space stands in a key. -/
theorem isSpace_of_mem_key {key : List Char} {d : Char} (h : IsKey key) (hd : d ∈ key) :
    isSpace d = false := by
  have h₁ := ne_of_mem_key (x := ' ') h hd (by decide) (by decide)
  have h₂ := ne_of_mem_key (x := '\t') h hd (by decide) (by decide)
  have h₃ := ne_of_mem_key (x := '\n') h hd (by decide) (by decide)
  have h₄ := ne_of_mem_key (x := '\r') h hd (by decide) (by decide)
  simp [isSpace, h₁, h₂, h₃, h₄]

theorem inKey_of_mem_key {key : List Char} {d : Char} (h : IsKey key) (hd : d ∈ key) :
    inKey d = true := by
  have hequals := ne_of_mem_key (x := '=') h hd (by decide) (by decide)
  simp [inKey, hequals, isSpace_of_mem_key h hd]

/-! ### Local names -/

theorem bne_colon_of_mem_name {cs : List Char} {d : Char} (h : IsName cs) (hd : d ∈ cs) :
    (d != ':') = true := by
  have hne := ne_of_inName (d := ':') (inName_of_mem_name h hd) (by decide)
  simpa using hne

theorem localName_of_name {cs : List Char} (h : IsName cs) : localName cs = cs := by
  have hdrop : cs.dropWhile (· != ':') = [] :=
    List.dropWhile_eq_nil_iff.mpr fun d hd => bne_colon_of_mem_name h hd
  rw [localName, hdrop]

theorem localName_append {qualifier : List Char} (cs : List Char) (h : IsName qualifier) :
    localName (qualifier ++ ':' :: cs) = cs := by
  have hdrop : (qualifier ++ ':' :: cs).dropWhile (· != ':') = ':' :: cs :=
    dropWhile_append_cons cs (fun d hd => bne_colon_of_mem_name h hd) (by decide)
  rw [localName, hdrop]

/-- The local name of a key is the name it was written for. -/
theorem localName_of_qualified {name : String} {key : List Char} (hname : IsName name.toList)
    (h : Qualified name key) : String.ofList (localName key) = name := by
  cases h with
  | bare => rw [localName_of_name hname, String.ofList_toList]
  | qualified hq _ => rw [localName_append _ hq, String.ofList_toList]

/-! ### Declarations of namespaces -/

theorem declaresNamespace_eq_true {key : List Char} (h : declaresNamespace key = true) :
    key = xmlns ∨ ∃ cs, key = xmlns ++ ':' :: cs := by
  unfold declaresNamespace at h
  split at h
  · next rest =>
    cases rest with
    | nil => exact .inl rfl
    | cons c cs =>
      have hc : c = ':' := by simpa using h
      rw [hc]
      exact .inr ⟨cs, rfl⟩
  · cases h

theorem declaresNamespace_of_declarationKey {key : List Char} (h : DeclarationKey key) :
    declaresNamespace key = true := by
  cases h <;> rfl

/-- The part of a key in front of its first colon. -/
theorem takeWhile_of_name {qualifier : List Char} (cs : List Char) (h : IsName qualifier) :
    (qualifier ++ ':' :: cs).takeWhile (· != ':') = qualifier :=
  takeWhile_append_cons cs (fun d hd => bne_colon_of_mem_name h hd) (by decide)

/-- No attribute has a key that declares a namespace. -/
theorem declaresNamespace_of_qualified {name : String} {key : List Char}
    (hname : IsName name.toList) (hne : name ≠ "xmlns") (h : Qualified name key) :
    declaresNamespace key = false := by
  rw [Bool.eq_false_iff]
  intro hdeclares
  cases h with
  | bare =>
    rcases declaresNamespace_eq_true hdeclares with heq | ⟨cs, heq⟩
    · exact hne (String.toList_inj.mp heq)
    · have hcolon : ':' ∈ name.toList := by
        rw [heq]
        simp
      exact ne_of_inName (d := ':') (inName_of_mem_name hname hcolon) (by decide) rfl
  | @qualified qualifier hq hxmlns =>
    rcases declaresNamespace_eq_true hdeclares with heq | ⟨cs, heq⟩
    · have hcolon : ':' ∈ xmlns := by
        rw [← heq]
        simp
      exact absurd hcolon (by decide)
    · refine hxmlns ?_
      rw [← takeWhile_of_name name.toList hq, heq, takeWhile_of_name cs isName_xmlns]

/-! ### One attribute -/

/-- What a key that is set to a value contributes to the attributes. -/
def contribution (key : List Char) (value : String) : List (String × String) :=
  if declaresNamespace key then [] else [(String.ofList (localName key), value)]

theorem attribute?_of_value {quote : Char} {cs : List Char} {value : String} (key : List Char)
    (h : Value quote value.toList cs) :
    ∃ here, attribute? key cs = .ok here ∧ here.toList = contribution key value := by
  unfold attribute? contribution
  cases declaresNamespace key with
  | true => exact ⟨none, rfl, rfl⟩
  | false =>
    refine ⟨some (String.ofList (localName key), value), ?_, rfl⟩
    rw [if_neg Bool.false_ne_true, resolveValue_of_value h]
    simp only [Except.map, String.ofList_toList]

/-- A key, an equals sign and a quoted value are read as one attribute, and reading goes on behind
it. -/
theorem attributesFrom_eq {k quote last : Char} {cs ks afterEquals quoted rest : List Char}
    {seen : List (List Char × Nat)} (size position : Nat)
    (hkey : cs.dropWhile isSpace = k :: ks)
    (hequals : (ks.dropWhile inKey).dropWhile isSpace = '=' :: afterEquals)
    (hfresh : seen.find? (·.1 == k :: ks.takeWhile inKey) = none)
    (hopen : afterEquals.dropWhile isSpace = quote :: quoted) (hquote : IsQuote quote)
    (hclose : quoted.dropWhile (· != quote) = last :: rest) :
    ∃ start position', attributesFrom size position seen cs = do
      let here ← attribute? (k :: ks.takeWhile inKey) (quoted.takeWhile (· != quote))
      let others ← attributesFrom size position' ((k :: ks.takeWhile inKey, start) :: seen) rest
      return here.toList ++ others := by
  unfold IsQuote at hquote
  rw [attributesFrom]
  split
  · next hnil => rw [hkey] at hnil; cases hnil
  · next k' ks' hk =>
    rw [hkey] at hk
    cases hk
    simp only
    split
    · next he =>
      rw [hequals] at he
      cases he
      rw [hfresh]
      simp only
      split
      · next hnil => rw [hopen] at hnil; cases hnil
      · next hq =>
        rw [hopen] at hq
        cases hq
        rw [if_pos hquote]
        split
        · next hnil => rw [hclose] at hnil; cases hnil
        · next hv =>
          rw [hclose] at hv
          cases hv
          exact ⟨_, _, rfl⟩
    · next hother => exact absurd hequals (hother _)

/-- A key is read up to the white space or the equals sign behind it. -/
theorem span_inKey {ks before : List Char} (rest : List Char)
    (hks : ∀ d ∈ ks, inKey d = true) (hbefore : Space before) :
    (ks ++ (before ++ '=' :: rest)).takeWhile inKey = ks ∧
      (ks ++ (before ++ '=' :: rest)).dropWhile inKey = before ++ '=' :: rest := by
  cases before with
  | nil =>
    exact ⟨takeWhile_append_cons rest hks (by decide), dropWhile_append_cons rest hks (by decide)⟩
  | cons b bs =>
    have hb : inKey b = false := by
      have hspace := isSpace_of_space hbefore b List.mem_cons_self
      simp [inKey, hspace]
    exact ⟨takeWhile_append_cons _ hks hb, dropWhile_append_cons _ hks hb⟩

/-- A key that is set to a text between quotes is read as one attribute, unless it has been met, and
reading goes on behind it. -/
theorem attributesFrom_assignment {gap ks before after value : List Char} {k quote : Char}
    {seen : List (List Char × Nat)} (size position : Nat) (rest : List Char) (hgap : Space gap)
    (hk : isSpace k = false) (hks : ∀ d ∈ ks, inKey d = true) (hbefore : Space before)
    (hafter : Space after) (hquote : IsQuote quote) (hvalue : quote ∉ value)
    (hseen : ∀ p ∈ seen, p.1 ≠ k :: ks) :
    ∃ start position', attributesFrom size position seen
        (gap ++ k :: (ks ++ (before ++ '=' :: (after ++ quote :: (value ++ quote :: rest))))) = do
      let here ← attribute? (k :: ks) value
      let others ← attributesFrom size position' ((k :: ks, start) :: seen) rest
      return here.toList ++ others := by
  have hquoteSpace : isSpace quote = false := by
    rcases hquote with rfl | rfl <;> decide
  have hinside : ∀ d ∈ value, (d != quote) = true := by
    rintro d hd
    exact bne_iff_ne.mpr fun heq => hvalue (heq ▸ hd)
  have hends : (quote != quote) = false := by simp
  obtain ⟨htake, hdrop⟩ := span_inKey (after ++ quote :: (value ++ quote :: rest)) hks hbefore
  have hfresh : seen.find? (·.1 == k :: (ks ++ (before ++ '=' ::
      (after ++ quote :: (value ++ quote :: rest)))).takeWhile inKey) = none := by
    rw [htake]
    simpa using hseen
  obtain ⟨start, position', hread⟩ := attributesFrom_eq size position (dropWhile_isSpace _ hgap hk)
    (by rw [hdrop]; exact dropWhile_isSpace _ hbefore (by decide)) hfresh
    (dropWhile_isSpace _ hafter hquoteSpace) hquote (dropWhile_append_cons rest hinside hends)
  rw [htake, takeWhile_append_cons rest hinside hends] at hread
  exact ⟨start, position', hread⟩

/-- A key that is set to a value is read as what it contributes, unless it has been met. -/
theorem attributesFrom_setting {key setting : List Char} {value : String}
    {seen : List (List Char × Nat)} (size position : Nat) (rest : List Char) (hkey : IsKey key)
    (hseen : ∀ p ∈ seen, p.1 ≠ key) (h : Setting key value setting) :
    ∃ start position', attributesFrom size position seen (setting ++ rest) =
      (attributesFrom size position' ((key, start) :: seen) rest).map
        (contribution key value ++ ·) := by
  cases h with
  | @intro gap before after cs quote _ hspace hbefore hafter hquote hvalue =>
    cases key with
    | nil => exact hkey.elim
    | cons k ks =>
      obtain ⟨start, position', hread⟩ := attributesFrom_assignment size position rest hspace
        (isSpace_of_mem_key hkey List.mem_cons_self)
        (fun d hd => inKey_of_mem_key hkey (List.mem_cons_of_mem k hd)) hbefore hafter hquote
        (fun hmem => ne_quote_of_mem_value hquote hvalue quote hmem rfl) hseen
      obtain ⟨here, hhere, hcontribution⟩ := attribute?_of_value (k :: ks) hvalue
      refine ⟨start, position', ?_⟩
      simp only [List.append_assoc, List.cons_append, List.nil_append]
      rw [hread, hhere, ← hcontribution]
      cases attributesFrom size position' ((k :: ks, start) :: seen) rest <;> rfl

/-! ### All attributes -/

/-- Keys that have been met are not among those that are still to come. -/
def Fresh (seen : List (List Char × Nat)) (declared : List (List Char))
    (attributes : List (String × String)) : Prop :=
  ∀ p ∈ seen, p.1 ∉ declared ∧ ∀ a ∈ attributes, ¬ Qualified a.1 p.1

theorem attributesFrom_space {cs : List Char} (size position : Nat)
    (seen : List (List Char × Nat)) (h : Space cs) :
    attributesFrom size position seen cs = .ok [] := by
  have hdrop : cs.dropWhile isSpace = [] := List.dropWhile_eq_nil_iff.mpr (isSpace_of_space h)
  rw [attributesFrom]
  split
  · rfl
  · next hk => rw [hdrop] at hk; cases hk

theorem declarationKey_of_mem {declared : List (List Char)} {attributes : List (String × String)}
    {cs key : List Char} (h : Attributes declared attributes cs) (hkey : key ∈ declared) :
    DeclarationKey key := by
  induction h with
  | nil => cases hkey
  | assigned _ _ _ ih => exact ih hkey
  | declaration hdeclares _ _ ih =>
    rcases List.mem_cons.mp hkey with rfl | hkey
    · exact hdeclares
    · exact ih hkey

/-- An attribute whose key was written for a name has that local name. -/
theorem contribution_of_qualified {name value : String} {key : List Char}
    (hname : IsName name.toList) (hne : name ≠ "xmlns") (h : Qualified name key) :
    contribution key value = [(name, value)] := by
  rw [contribution, declaresNamespace_of_qualified hname hne h, if_neg Bool.false_ne_true,
    localName_of_qualified hname h]

theorem contribution_of_declarationKey {value : String} {key : List Char}
    (h : DeclarationKey key) : contribution key value = [] := by
  rw [contribution, declaresNamespace_of_declarationKey h, if_pos rfl]

/-- The key of a declaration is that of no attribute. -/
theorem not_qualified_of_declarationKey {name : String} {key : List Char}
    (hname : IsName name.toList) (hne : name ≠ "xmlns") (h : DeclarationKey key) :
    ¬ Qualified name key := by
  intro hqualified
  have hfalse := declaresNamespace_of_qualified hname hne hqualified
  rw [declaresNamespace_of_declarationKey h] at hfalse
  cases hfalse

/-- Attributes that were written among declarations are read in order. -/
theorem attributesFrom_of_attributes {declared : List (List Char)}
    {attributes : List (String × String)} {cs space : List Char} {seen : List (List Char × Nat)}
    (size position : Nat) (h : Attributes declared attributes cs)
    (hnames : ∀ a ∈ attributes, IsName a.1.toList ∧ a.1 ≠ "xmlns")
    (hdistinct : (attributes.map (·.1)).Nodup) (hdeclared : declared.Nodup) (hspace : Space space)
    (hfresh : Fresh seen declared attributes) :
    attributesFrom size position seen (cs ++ space) = .ok attributes := by
  induction h generalizing position seen with
  | nil => exact attributesFrom_space size position seen hspace
  | @assigned name value key setting cs declared attributes hkey hsetting hrest ih =>
    obtain ⟨hname, hne⟩ := hnames _ List.mem_cons_self
    obtain ⟨hfirst, hdistinct⟩ := List.nodup_cons.mp hdistinct
    have hseen : ∀ p ∈ seen, p.1 ≠ key := by
      rintro p hp rfl
      exact (hfresh p hp).2 _ List.mem_cons_self hkey
    obtain ⟨start, position', hread⟩ := attributesFrom_setting size position (cs ++ space)
      (isKey_of_qualified hname hkey) hseen hsetting
    have hfresh' : Fresh ((key, start) :: seen) declared attributes := by
      intro p hp
      rcases List.mem_cons.mp hp with rfl | hp
      · refine ⟨fun hmem => ?_, fun a ha hqualified => hfirst ?_⟩
        · exact not_qualified_of_declarationKey hname hne (declarationKey_of_mem hrest hmem) hkey
        · have ha' := hnames a (List.mem_cons_of_mem _ ha)
          have hsame : a.1 = name :=
            (localName_of_qualified ha'.1 hqualified).symm.trans (localName_of_qualified hname hkey)
          exact List.mem_map.mpr ⟨a, ha, hsame⟩
      · exact ⟨(hfresh p hp).1, fun a ha => (hfresh p hp).2 a (List.mem_cons_of_mem _ ha)⟩
    rw [List.append_assoc, hread, contribution_of_qualified hname hne hkey,
      ih position' (fun a ha => hnames a (List.mem_cons_of_mem _ ha)) hdistinct hdeclared hfresh']
    rfl
  | @declaration uri key setting cs declared attributes hkey hsetting hrest ih =>
    obtain ⟨hfirst, hdeclared⟩ := List.nodup_cons.mp hdeclared
    have hseen : ∀ p ∈ seen, p.1 ≠ key := by
      rintro p hp rfl
      exact (hfresh p hp).1 List.mem_cons_self
    obtain ⟨start, position', hread⟩ := attributesFrom_setting size position (cs ++ space)
      (isKey_of_declarationKey hkey) hseen hsetting
    have hfresh' : Fresh ((key, start) :: seen) declared attributes := by
      intro p hp
      rcases List.mem_cons.mp hp with rfl | hp
      · exact ⟨hfirst, fun a ha =>
          not_qualified_of_declarationKey (hnames a ha).1 (hnames a ha).2 hkey⟩
      · exact ⟨fun hmem => (hfresh p hp).1 (List.mem_cons_of_mem _ hmem), (hfresh p hp).2⟩
    rw [List.append_assoc, hread, contribution_of_declarationKey hkey,
      ih position' hnames hdistinct hdeclared hfresh']
    rfl

/-! ### Tags -/

theorem exists_space_of_attributes {declared : List (List Char)}
    {attributes : List (String × String)} {cs : List Char} (h : Attributes declared attributes cs) :
    cs = [] ∨ ∃ c rest, cs = c :: rest ∧ isSpace c = true := by
  have hsetting : ∀ {key value setting cs}, Setting key value setting →
      ∃ c rest, setting ++ cs = c :: rest ∧ isSpace c = true := by
    rintro key value setting cs ⟨hgap, hspace, -, -, -, -⟩
    rename_i gap _ _ _ _
    cases gap with
    | nil => exact absurd rfl hgap
    | cons c gap => exact ⟨c, _, rfl, isSpace_of_space hspace c List.mem_cons_self⟩
  cases h with
  | nil => exact .inl rfl
  | assigned _ h _ => exact .inr (hsetting h)
  | declaration _ h _ => exact .inr (hsetting h)

/-- The name of a tag is read up to the white space behind it. -/
theorem tagName_of_tag {name : String} {attributes : List (String × String)} {key tag : List Char}
    (hname : IsName name.toList) (h : Tag name attributes key tag) : tagName tag = key := by
  cases h with
  | @intro declared cs space hkey hattributes _ hspace =>
    have hin : ∀ d ∈ key, (!isSpace d) = true := fun d hd => by
      rw [isSpace_of_mem_key (isKey_of_qualified hname hkey) hd]
      rfl
    have hbehind : cs ++ space = [] ∨ ∃ c rest, cs ++ space = c :: rest ∧ isSpace c = true := by
      rcases exists_space_of_attributes hattributes with rfl | ⟨c, rest, rfl, hc⟩
      · cases space with
        | nil => exact .inl rfl
        | cons c rest => exact .inr ⟨c, rest, rfl, isSpace_of_space hspace c List.mem_cons_self⟩
      · exact .inr ⟨c, rest ++ space, rfl, hc⟩
    rw [tagName]
    rcases hbehind with hnil | ⟨c, rest, hcons, hc⟩
    · rw [hnil, List.append_nil, List.takeWhile_eq_self_iff.mpr hin]
    · rw [hcons]
      exact takeWhile_append_cons rest hin (by rw [hc]; rfl)

/-- The attributes of a tag are those it was written for. -/
theorem attributes_of_tag {name : String} {attributes : List (String × String)}
    {key tag : List Char} (hname : IsName name.toList)
    (hnames : ∀ a ∈ attributes, IsName a.1.toList ∧ a.1 ≠ "xmlns")
    (hdistinct : (attributes.map (·.1)).Nodup) (h : Tag name attributes key tag) :
    Xml.attributes tag = .ok attributes := by
  have htagName := tagName_of_tag hname h
  cases h with
  | @intro declared cs space _ hattributes hdeclared hspace =>
    rw [Xml.attributes, htagName, List.drop_left]
    exact attributesFrom_of_attributes _ _ hattributes hnames hdistinct hdeclared hspace
      (fun p hp => nomatch hp)

end EntityForge.Xml
