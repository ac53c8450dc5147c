import EntityForge.Proofs.Xml.Reading

/-!
# Complete markup

The markup that starts at an angle bracket is complete at the closing bracket that ends it. What it
is does not depend on the text behind that bracket, and a text that ends before the bracket is at
fault: no part of the markup is taken for something else.
-/

namespace EntityForge.Xml

/-! ### Cutting -/

/-- A way of cutting cuts a content off where a closing bracket follows it, whatever follows the
bracket, and does not cut anything off a text that ends before the bracket. `seen` is what it has
read before, the latest first. -/
structure CutsOff (cut : List Char → Option (List Char × List Char)) (seen content : List Char) :
    Prop where
  /-- The content is cut off at the bracket. -/
  complete : ∀ rest, cut (content ++ '>' :: rest) = some (seen.reverse ++ content, rest)
  /-- Without the bracket nothing is cut off. -/
  short : ∀ p, p <+: content → cut p = none

theorem CutsOff.stop {cut : List Char → Option (List Char × List Char)} {seen : List Char}
    (hstop : ∀ rest, cut ('>' :: rest) = some (seen.reverse, rest)) (hnil : cut [] = none) :
    CutsOff cut seen [] := by
  refine ⟨fun rest => ?_, fun p hp => ?_⟩
  · rw [List.nil_append, hstop, List.append_nil]
  · rw [List.prefix_nil.mp hp, hnil]

/-- One more character in front of the content. -/
theorem CutsOff.cons {cut cut' : List Char → Option (List Char × List Char)}
    {seen content : List Char} {c : Char} (h : CutsOff cut' (c :: seen) content)
    (hstep : ∀ cs, cut (c :: cs) = cut' cs) (hnil : cut [] = none) :
    CutsOff cut seen (c :: content) := by
  refine ⟨fun rest => ?_, fun p hp => ?_⟩
  · rw [List.cons_append, hstep, h.complete, List.reverse_cons, List.append_assoc,
      List.singleton_append]
  · cases p with
    | nil => exact hnil
    | cons d ds =>
      obtain ⟨rfl, hds⟩ := List.cons_prefix_cons.mp hp
      rw [hstep]
      exact h.short ds hds

/-- Markup that ends at a pattern ends at a closing bracket, since its pattern does. -/
theorem cutsOff_cutAt {ends : List Char → Bool}
    (hends : ∀ c seen, ends (c :: seen) = true → c = '>') {seen cs content rest : List Char}
    (h : cutAt ends seen cs = some (content, rest)) :
    ∃ read, cs = read ++ '>' :: rest ∧ CutsOff (cutAt ends seen) seen read := by
  induction cs generalizing seen with
  | nil => cases h
  | cons c cs ih =>
    rw [cutAt] at h
    split_ifs at h with hc
    · cases h
      obtain rfl := hends c seen hc
      exact ⟨[], rfl, .stop (fun rest => by rw [cutAt, if_pos hc]) rfl⟩
    · obtain ⟨read, rfl, hread⟩ := ih h
      exact ⟨c :: read, rfl, hread.cons (fun cs => by rw [cutAt, if_neg hc]) rfl⟩

theorem cutsOff_cutDoctype {depth : Nat} {seen cs content rest : List Char}
    (h : cutDoctype depth seen cs = some (content, rest)) :
    ∃ read, cs = read ++ '>' :: rest ∧ CutsOff (cutDoctype depth seen) seen read := by
  fun_induction cutDoctype depth seen cs with
  | case1 => cases h
  | case2 depth seen cs ih =>
    obtain ⟨read, rfl, hread⟩ := ih h
    exact ⟨'<' :: read, rfl, hread.cons (fun cs => by rw [cutDoctype]) rfl⟩
  | case3 seen cs =>
    cases h
    exact ⟨[], rfl, .stop (fun rest => by rw [cutDoctype]) rfl⟩
  | case4 seen cs d ih =>
    obtain ⟨read, rfl, hread⟩ := ih h
    exact ⟨'>' :: read, rfl, hread.cons (fun cs => by rw [cutDoctype]) rfl⟩
  | case5 depth seen c cs hopen hclose ih =>
    obtain ⟨read, rfl, hread⟩ := ih h
    exact ⟨c :: read, rfl, hread.cons (fun cs => by rw [cutDoctype] <;> assumption) rfl⟩

theorem cutsOff_cutTag {quote : Option Char} {seen cs content rest : List Char}
    (h : cutTag quote seen cs = some (content, rest)) :
    ∃ read, cs = read ++ '>' :: rest ∧ CutsOff (cutTag quote seen) seen read := by
  fun_induction cutTag quote seen cs with
  | case1 => cases h
  | case2 seen c cs q ih =>
    obtain ⟨read, rfl, hread⟩ := ih h
    exact ⟨c :: read, rfl, hread.cons (fun cs => by rw [cutTag]) rfl⟩
  | case3 seen cs =>
    cases h
    exact ⟨[], rfl, .stop (fun rest => by rw [cutTag, if_pos rfl]) rfl⟩
  | case4 seen c cs hc ih =>
    obtain ⟨read, rfl, hread⟩ := ih h
    exact ⟨c :: read, rfl, hread.cons (fun cs => by rw [cutTag, if_neg hc]) rfl⟩

/-- Every rule cuts off a content that a closing bracket follows. -/
theorem cutsOff_of_rule {rule : MarkupRule} {cs content rest : List Char}
    (hrule : MarkupRule.of? cs = .ok rule) (hcut : rule.cut cs = some (content, rest)) :
    cs = content ++ '>' :: rest ∧ CutsOff rule.cut [] content := by
  have hread : ∃ read, cs = read ++ '>' :: rest ∧ CutsOff rule.cut [] read := by
    unfold MarkupRule.of? at hrule
    split at hrule
    · cases hrule
      exact cutsOff_cutAt (fun c seen h => by unfold endsCData at h; split at h <;> simp_all) hcut
    · cases hrule
      exact cutsOff_cutAt (fun c seen h => by unfold endsComment at h; split at h <;> simp_all) hcut
    · cases hrule
      exact cutsOff_cutDoctype hcut
    · cases hrule
      exact cutsOff_cutDoctype hcut
    · cases hrule
    · cases hrule
      exact cutsOff_cutAt (fun c seen h => by unfold endsInstruction at h; split at h <;> simp_all)
        hcut
    · cases hrule
      exact cutsOff_cutTag hcut
  obtain ⟨read, rfl, hread⟩ := hread
  rw [hread.complete] at hcut
  cases hcut
  exact ⟨rfl, hread⟩

/-! ### Choosing the rule -/

/-- A rule is chosen by the first two characters if they begin with an exclamation mark, and else by
the first one. -/
theorem of?_eq_ok {rule : MarkupRule} {cs : List Char} (h : MarkupRule.of? cs = .ok rule) :
    (∃ c tail, cs = '!' :: c :: tail ∧ c ≠ '>' ∧
        ∀ tail, MarkupRule.of? ('!' :: c :: tail) = .ok rule) ∨
      ∀ c ∈ cs.head?, ∀ tail, MarkupRule.of? (c :: tail) = .ok rule := by
  unfold MarkupRule.of? at h
  split at h
  · exact .inl ⟨_, _, rfl, by decide, fun _ => h⟩
  · exact .inl ⟨_, _, rfl, by decide, fun _ => h⟩
  · exact .inl ⟨_, _, rfl, by decide, fun _ => h⟩
  · exact .inl ⟨_, _, rfl, by decide, fun _ => h⟩
  · cases h
  · refine .inr fun c hc tail => ?_
    cases hc
    exact h
  · next hbang hquestion =>
    refine .inr fun c hc tail => ?_
    obtain ⟨rest, rfl⟩ := List.head?_eq_some_iff.mp hc
    cases h
    exact of?_eq_tag tail (fun hc => hbang rest (hc ▸ rfl)) fun hc => hquestion rest (hc ▸ rfl)

/-- A rule reads markup of a content: it is chosen and cuts the content off whatever follows the
closing bracket, and a text that ends before the bracket is at fault. -/
structure MarkupRule.Completes (rule : MarkupRule) (content : List Char) : Prop where
  /-- The rule is chosen. -/
  chosen : ∀ rest, MarkupRule.of? (content ++ '>' :: rest) = .ok rule
  /-- The content is cut off. -/
  cut : ∀ rest, rule.cut (content ++ '>' :: rest) = some (content, rest)
  /-- Without the closing bracket the text is at fault. -/
  short : ∀ p, p <+: content → ∀ names position, ∃ stop fault,
    Events.scan names position ('<' :: p) = .fail stop fault

theorem scan_eq_fail {cs : List Char}
    (h : ∀ rule, MarkupRule.of? cs = .ok rule → rule.cut cs = none) (names : List (List Char))
    (position : Nat) : ∃ stop fault, Events.scan names position ('<' :: cs) = .fail stop fault := by
  rw [Events.scan]
  cases hrule : MarkupRule.of? cs with
  | error fault => exact ⟨_, fault, rfl⟩
  | ok rule =>
    simp only
    split
    · exact ⟨_, _, rfl⟩
    · next hcut =>
      rw [h rule hrule] at hcut
      cases hcut

/-- Markup that can be cut off is read by the rule that cuts it off. -/
theorem completes_of_cut {rule : MarkupRule} {cs content rest : List Char}
    (hrule : MarkupRule.of? cs = .ok rule) (hcut : rule.cut cs = some (content, rest)) :
    cs = content ++ '>' :: rest ∧ rule.Completes content := by
  obtain ⟨rfl, hcuts⟩ := cutsOff_of_rule hrule hcut
  have hshort : ∀ p, p <+: content → MarkupRule.of? p = .ok rule →
      ∀ rule', MarkupRule.of? p = .ok rule' → rule'.cut p = none := fun p hp hp' rule' hrule' => by
    rw [hp'] at hrule'
    cases hrule'
    exact hcuts.short p hp
  have hnil : ∀ rule', MarkupRule.of? [] = .ok rule' → rule'.cut [] = none := fun rule' hrule' => by
    cases hrule'
    rfl
  rcases of?_eq_ok hrule with ⟨c, tail, hcs, hc, hof⟩ | hof
  · -- the two characters that choose the rule belong to the content
    obtain ⟨content, rfl⟩ : ∃ content', content = '!' :: c :: content' := by
      cases content with
      | nil => cases hcs
      | cons d ds =>
        obtain ⟨rfl, hds⟩ := List.cons.inj hcs
        cases ds with
        | nil => exact absurd (List.cons.inj hds).1.symm hc
        | cons d' ds => exact ⟨ds, by rw [(List.cons.inj hds).1]⟩
    refine ⟨rfl, fun rest => hof _, hcuts.complete, fun p hp names position => ?_⟩
    refine scan_eq_fail (fun rule' hrule' => ?_) names position
    cases p with
    | nil => exact hnil rule' hrule'
    | cons d p =>
      obtain ⟨rfl, hp'⟩ := List.cons_prefix_cons.mp hp
      cases p with
      | nil => cases hrule'
      | cons d' p =>
        obtain ⟨rfl, -⟩ := List.cons_prefix_cons.mp hp'
        exact hshort _ hp (hof p) rule' hrule'
  · refine ⟨rfl, fun rest' => ?_, hcuts.complete, fun p hp names position => ?_⟩
    · cases content with
      | nil => exact hof '>' rfl rest'
      | cons d ds => exact hof d rfl _
    · refine scan_eq_fail (fun rule' hrule' => ?_) names position
      cases p with
      | nil => exact hnil rule' hrule'
      | cons d p =>
        obtain ⟨tail, htail⟩ := hp
        exact hshort _ ⟨tail, htail⟩ (hof d (by rw [← htail]; rfl) p) rule' hrule'

end EntityForge.Xml
