import EntityForge.Proofs.Outcome
import EntityForge.Proofs.Xml.Tags

/-!
# Attributes as assignments

What stands behind the name of a tag is a sequence of keys that are set to texts between quotes. The
tag has attributes just where no key is set twice and the references in every text resolve, but for
keys that declare namespaces: these are passed over, and their texts are not looked at. The
attributes then are the other keys, in order, each by its local name and with its text unescaped.
-/

namespace EntityForge.Xml

open Grammar
open Outcome

/-! ### What a tag assigns -/

/-- A piece of a tag that sets keys to texts between quotes, one after another. The texts are taken
as they are written. -/
inductive Assigns : List (List Char × List Char) → List Char → Prop
  /-- Nothing but white space is left. -/
  | nil {space : List Char} : Space space → Assigns [] space
  /-- A key, an equals sign and a text in quotes. -/
  | cons {gap ks before after value cs : List Char} {k quote : Char}
    {assigned : List (List Char × List Char)} : Space gap → isSpace k = false →
    (∀ d ∈ ks, inKey d = true) → Space before → Space after → IsQuote quote → quote ∉ value →
    Assigns assigned cs → Assigns ((k :: ks, value) :: assigned)
      (gap ++ k :: (ks ++ (before ++ '=' :: (after ++ quote :: (value ++ quote :: cs)))))

/-- The assignments that make attributes: those that declare no namespace. -/
def assigning (assigned : List (List Char × List Char)) : List (List Char × List Char) :=
  assigned.filter (!declaresNamespace ·.1)

/-- An attribute is what an assignment makes: it has the local name of the key, and the text with
its references resolved. -/
structure Makes (assignment : List Char × List Char) (made : String × String) : Prop where
  /-- The name is the local name of the key. -/
  name : made.1 = String.ofList (localName assignment.1)
  /-- The value is the text without references. -/
  value : resolveValue assignment.2 = .ok made.2.toList

/-- A key and a text make one attribute, or none if the key declares a namespace, before those that
other assignments make. -/
theorem forall₂_makes_cons {key value : List Char} {assigned : List (List Char × List Char)}
    {made : List (String × String)} :
    List.Forall₂ Makes (assigning ((key, value) :: assigned)) made ↔
      ∃ here others, attribute? key value = .ok here ∧
        List.Forall₂ Makes (assigning assigned) others ∧ here.toList ++ others = made := by
  rw [assigning, List.filter_cons, attribute?]
  cases declaresNamespace key with
  | true =>
    constructor
    · intro h
      exact ⟨none, made, rfl, h, rfl⟩
    · rintro ⟨here, others, hhere, hothers, rfl⟩
      cases hhere
      exact hothers
  | false =>
    simp only [Bool.not_false, if_true, Bool.false_eq_true, if_false, map_eq_ok]
    rw [List.forall₂_cons_left_iff]
    constructor
    · rintro ⟨first, others, hfirst, hothers, rfl⟩
      exact ⟨some first, others, ⟨_, hfirst.value, congrArg some
        (Prod.ext hfirst.name.symm String.ofList_toList)⟩, hothers, rfl⟩
    · rintro ⟨here, others, ⟨text, htext, rfl⟩, hothers, rfl⟩
      exact ⟨_, others, ⟨rfl, by rw [htext, String.toList_ofList]⟩, hothers, rfl⟩

/-! ### Reading -/

theorem space_takeWhile (cs : List Char) : Space (cs.takeWhile isSpace) := by
  intro c hc
  have hspace := List.mem_takeWhile_imp hc
  simpa [isSpace, or_assoc] using hspace

/-- A text is the white space at its head and what is left. -/
theorem exists_space_append {cs rest : List Char} (h : cs.dropWhile isSpace = rest) :
    ∃ space, Space space ∧ cs = space ++ rest :=
  ⟨_, space_takeWhile cs, by rw [← h, List.takeWhile_append_dropWhile]⟩

theorem head_dropWhile {p : Char → Bool} {cs rest : List Char} {c : Char}
    (h : cs.dropWhile p = c :: rest) : p c = false := by
  have hhead := List.head?_dropWhile_not p cs
  rw [h] at hhead
  simpa using hhead

/-- What is read as attributes is assigned to keys of which none is met twice. -/
theorem exists_assigns_of_attributesFrom {size position : Nat} {seen : List (List Char × Nat)}
    {cs : List Char} {attributes : List (String × String)}
    (h : attributesFrom size position seen cs = .ok attributes) :
    ∃ assigned, Assigns assigned cs ∧ (assigned.map (·.1)).Nodup ∧
      (∀ p ∈ seen, p.1 ∉ assigned.map (·.1)) ∧
      List.Forall₂ Makes (assigning assigned) attributes := by
  fun_induction attributesFrom size position seen cs generalizing attributes
  case case1 hnil =>
    obtain rfl := Except.ok.inj h
    obtain ⟨space, hspace, rfl⟩ := exists_space_append hnil
    exact ⟨[], by simpa using Assigns.nil hspace, .nil, by simp, .nil⟩
  case case5 seen cs start k ks hkey key keyStop gap afterEquals hequals hfind valueGap quoteAt
      quote quoted hopen hquote value last rest hclose ih =>
    simp only [bind_eq_ok] at h
    obtain ⟨here, hhere, others, hothers, h⟩ := h
    obtain rfl := Except.ok.inj h
    obtain ⟨assigned, hassigns, hnodup, hfresh, hmakes⟩ := ih hothers
    obtain ⟨hkeyFresh, hseenFresh⟩ := List.forall_mem_cons.mp hfresh
    obtain ⟨space, hspace, rfl⟩ := exists_space_append hkey
    obtain ⟨before, hbefore, hks⟩ := exists_space_append hequals
    obtain ⟨after, hafter, rfl⟩ := exists_space_append hopen
    obtain rfl : last = quote := by simpa using head_dropWhile hclose
    have hquoted : quoted = value ++ last :: rest := by
      rw [← hclose]
      exact (List.takeWhile_append_dropWhile).symm
    have hshape : ks = ks.takeWhile inKey ++
        (before ++ '=' :: (after ++ last :: (value ++ last :: rest))) := by
      rw [← hquoted, ← hks, List.takeWhile_append_dropWhile]
    have hvalue : last ∉ value := fun hmem => by simpa using List.mem_takeWhile_imp hmem
    refine ⟨(key, value) :: assigned, ?_, List.nodup_cons.mpr ⟨hkeyFresh, hnodup⟩, ?_, ?_⟩
    · rw [hshape]
      exact .cons hspace (head_dropWhile hkey) (fun d hd => List.mem_takeWhile_imp hd) hbefore
        hafter hquote hvalue hassigns
    · intro p hp hmem
      rcases List.mem_cons.mp hmem with hhead | htail
      · exact List.find?_eq_none.mp hfind p hp (beq_iff_eq.mpr hhead)
      · exact hseenFresh p hp htail
    · exact forall₂_makes_cons.mpr ⟨here, others, hhere, hmakes, rfl⟩
  -- in all other cases the reading fails
  all_goals cases h

/-- Distinct keys that have not been met are read as the attributes that they make. -/
theorem attributesFrom_of_assigns {size : Nat} {cs : List Char}
    {assigned : List (List Char × List Char)} {attributes : List (String × String)}
    (h : Assigns assigned cs) (position : Nat) (seen : List (List Char × Nat))
    (hnodup : (assigned.map (·.1)).Nodup) (hfresh : ∀ p ∈ seen, p.1 ∉ assigned.map (·.1))
    (hmakes : List.Forall₂ Makes (assigning assigned) attributes) :
    attributesFrom size position seen cs = .ok attributes := by
  induction h generalizing position seen attributes with
  | nil hspace =>
    obtain rfl := List.forall₂_nil_left_iff.mp hmakes
    exact attributesFrom_space size position seen hspace
  | @cons gap ks before after value cs k quote assigned hgap hk hks hbefore hafter hquote hvalue _
      ih =>
    obtain ⟨hkey, hnodup⟩ := List.nodup_cons.mp hnodup
    have hseen : ∀ p ∈ seen, p.1 ≠ k :: ks ∧ p.1 ∉ assigned.map (·.1) := fun p hp =>
      not_or.mp fun hmem => hfresh p hp (List.mem_cons.mpr hmem)
    obtain ⟨start, position', hread⟩ := attributesFrom_assignment size position cs hgap hk hks
      hbefore hafter hquote hvalue fun p hp => (hseen p hp).1
    obtain ⟨here, others, hhere, hothers, rfl⟩ := forall₂_makes_cons.mp hmakes
    have hrest := ih position' ((k :: ks, start) :: seen) hnodup
      (List.forall_mem_cons.mpr ⟨hkey, fun p hp => (hseen p hp).2⟩) hothers
    rw [hread, hhere, ok_bind, hrest]
    rfl

/-- A tag has attributes just where its keys are distinct and the references in the texts that they
are set to resolve, and the attributes are the keys that declare no namespace, in order, by their
local names and with the texts unescaped. -/
theorem attributes_eq_ok {tag : List Char} {made : List (String × String)} :
    attributes tag = .ok made ↔ ∃ assigned, Assigns assigned (tag.drop (tagName tag).length) ∧
      (assigned.map (·.1)).Nodup ∧ List.Forall₂ Makes (assigning assigned) made := by
  constructor
  · intro h
    obtain ⟨assigned, hassigns, hnodup, -, hmakes⟩ := exists_assigns_of_attributesFrom h
    exact ⟨assigned, hassigns, hnodup, hmakes⟩
  · rintro ⟨assigned, hassigns, hnodup, hmakes⟩
    exact attributesFrom_of_assigns hassigns _ _ hnodup (by simp) hmakes

end EntityForge.Xml
