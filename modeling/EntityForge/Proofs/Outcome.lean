import Mathlib.Data.List.Forall2

/-!
# Computations that may fail

When a sequence of computations gives a result, each of them does, and when it fails, one of them
does. The lemmas take a sequence apart without opening the functions that it runs through. Checks
made one after another fail with the first defect there is, whatever defects come later.
-/

namespace EntityForge.Outcome

variable {ε ε' α β : Type}

/-- What follows a computation that succeeds goes on with its result. -/
theorem ok_bind (a : α) (f : α → Except ε β) : (.ok a >>= f) = f a := rfl

theorem bind_eq_ok {x : Except ε α} {f : α → Except ε β} {b : β} :
    (x >>= f) = .ok b ↔ ∃ a, x = .ok a ∧ f a = .ok b := by
  cases x with
  | error e => simp [bind, Except.bind]
  | ok a => simp [bind, Except.bind]

theorem bind_eq_error {x : Except ε α} {f : α → Except ε β} {e : ε} :
    (x >>= f) = .error e ↔ x = .error e ∨ ∃ a, x = .ok a ∧ f a = .error e := by
  cases x with
  | error e' => simp [bind, Except.bind]
  | ok a => simp [bind, Except.bind]

theorem map_eq_ok {x : Except ε α} {f : α → β} {b : β} :
    x.map f = .ok b ↔ ∃ a, x = .ok a ∧ f a = b := by
  cases x with
  | error e => simp [Except.map]
  | ok a => simp [Except.map]

theorem mapError_eq_ok {x : Except ε α} {f : ε → ε'} {a : α} :
    x.mapError f = .ok a ↔ x = .ok a := by
  cases x with
  | error e => simp [Except.mapError]
  | ok a' => simp [Except.mapError]

theorem mapError_eq_error {x : Except ε α} {f : ε → ε'} {e' : ε'} :
    x.mapError f = .error e' ↔ ∃ e, x = .error e ∧ f e = e' := by
  cases x with
  | error e => simp [Except.mapError]
  | ok a => simp [Except.mapError]

theorem toOption_eq_some {x : Except ε α} {a : α} : x.toOption = some a ↔ x = .ok a := by
  cases x with
  | error e => simp [Except.toOption]
  | ok a' => simp [Except.toOption]

/-- A computation on each item of a list gives the list of the results. -/
theorem mapM_eq_ok {f : α → Except ε β} {as : List α} {bs : List β} :
    as.mapM f = .ok bs ↔ List.Forall₂ (fun a b => f a = .ok b) as bs := by
  induction as generalizing bs with
  | nil => simp [pure, Except.pure, eq_comm]
  | cons a as ih =>
    rw [List.mapM_cons, bind_eq_ok, List.forall₂_cons_left_iff]
    refine exists_congr fun b => ?_
    rw [bind_eq_ok]
    constructor
    · rintro ⟨hb, bs', hbs', heq⟩
      exact ⟨bs', hb, ih.mp hbs', (Except.ok.inj heq).symm⟩
    · rintro ⟨bs', hb, hbs', rfl⟩
      exact ⟨hb, bs', ih.mpr hbs', rfl⟩

/-- A computation on each item of a list fails where it fails on an item and gives a result on every
item before it. -/
theorem mapM_eq_error {f : α → Except ε β} {as : List α} {e : ε} :
    as.mapM f = .error e ↔ ∃ before a after, as = before ++ a :: after ∧
      (∀ a' ∈ before, ∃ b, f a' = .ok b) ∧ f a = .error e := by
  induction as with
  | nil => simp [pure, Except.pure]
  | cons a as ih =>
    rw [List.mapM_cons, bind_eq_error]
    constructor
    · rintro (ha | ⟨b, hb, hrest⟩)
      · exact ⟨[], a, as, rfl, nofun, ha⟩
      · obtain ⟨bs, -, hnone⟩ | hrest := (bind_eq_error.mp hrest).symm
        · cases hnone
        · obtain ⟨before, a', after, rfl, hbefore, ha'⟩ := ih.mp hrest
          exact ⟨a :: before, a', after, rfl, List.forall_mem_cons.mpr ⟨⟨b, hb⟩, hbefore⟩, ha'⟩
    · rintro ⟨before, a', after, heq, hbefore, ha'⟩
      cases before with
      | nil =>
        obtain ⟨rfl, -⟩ := List.cons_eq_cons.mp heq
        exact .inl ha'
      | cons c before =>
        obtain ⟨rfl, rfl⟩ := List.cons_eq_cons.mp heq
        obtain ⟨⟨b, hb⟩, hbefore⟩ := List.forall_mem_cons.mp hbefore
        refine .inr ⟨b, hb, ?_⟩
        rw [bind_eq_error]
        exact .inl (ih.mpr ⟨before, a', after, rfl, hbefore, ha'⟩)

/-! ### The first failure -/

/-- A computation fails just where there are defects, and then with the first of them. -/
def FailsFirst (x : Except ε α) (defects : List ε) : Prop :=
  ∀ e, x = .error e ↔ defects.head? = some e

theorem FailsFirst.ok (a : α) : FailsFirst (.ok a : Except ε α) [] := fun e => by simp

theorem FailsFirst.error (e : ε) : FailsFirst (.error e : Except ε α) [e] := fun e' => by simp

/-- There is no defect where there is a result. -/
theorem FailsFirst.head?_eq_none {a : α} {defects : List ε}
    (h : FailsFirst (.ok a : Except ε α) defects) : defects.head? = none :=
  Option.eq_none_iff_forall_ne_some.mpr fun e he => nomatch (h e).mpr he

/-- A sequence fails with the first defect of its first part, or else of its second part. -/
theorem FailsFirst.bind {x : Except ε α} {f : α → Except ε β} {defects defects' : List ε}
    (hx : FailsFirst x defects) (hf : ∀ a, x = .ok a → FailsFirst (f a) defects') :
    FailsFirst (x >>= f) (defects ++ defects') := by
  intro e
  cases x with
  | error e' =>
    have hhead : defects.head? = some e' := (hx e').mp rfl
    rw [List.head?_append, hhead, Option.some_or]
    exact ⟨fun h => congrArg some (Except.error.inj h),
      fun h => congrArg Except.error (Option.some.inj h)⟩
  | ok a =>
    rw [List.head?_append, hx.head?_eq_none, Option.none_or]
    exact hf a rfl e

/-- What is made of the results of a computation that succeeds adds no defect. -/
theorem FailsFirst.bind_ok {x : Except ε α} {defects : List ε} (hx : FailsFirst x defects)
    (f : α → β) : FailsFirst (x >>= fun a => .ok (f a)) defects := by
  rw [← List.append_nil defects]
  exact hx.bind fun a _ => FailsFirst.ok (f a)

theorem FailsFirst.map {x : Except ε α} {defects : List ε} (hx : FailsFirst x defects)
    (f : α → β) : FailsFirst (x.map f) defects := by
  intro e
  rw [← hx e]
  cases x <;> simp [Except.map]

/-- A computation on each item of a list fails with the first defect of the first item that has
any. -/
theorem FailsFirst.mapM {f : α → Except ε β} {defects : α → List ε} {as : List α}
    (h : ∀ a ∈ as, FailsFirst (f a) (defects a)) :
    FailsFirst (as.mapM f) (as.flatMap defects) := by
  induction as with
  | nil => exact FailsFirst.ok []
  | cons a as ih =>
    rw [List.mapM_cons, List.flatMap_cons]
    refine (h a List.mem_cons_self).bind fun b _ => ?_
    exact (ih fun a' ha' => h a' (List.mem_cons_of_mem a ha')).bind_ok _

/-- Only a computation without defects succeeds. -/
theorem FailsFirst.exists_error_iff {x : Except ε α} {defects : List ε}
    (hx : FailsFirst x defects) : (∃ e, x = .error e) ↔ ∃ e, e ∈ defects := by
  simp only [hx _]
  cases defects with
  | nil => simp
  | cons e rest => exact ⟨fun _ => ⟨e, List.mem_cons_self⟩, fun _ => ⟨e, rfl⟩⟩

/-! ### Lists item by item -/

theorem exists_left_of_forall₂ {R : α → β → Prop} {as : List α} {bs : List β}
    (h : List.Forall₂ R as bs) {b : β} (hb : b ∈ bs) : ∃ a ∈ as, R a b := by
  induction h with
  | nil => cases hb
  | @cons a b' as' bs' hhead _ ih =>
    rcases List.mem_cons.mp hb with rfl | hb
    · exact ⟨a, List.mem_cons_self, hhead⟩
    · obtain ⟨a', ha', hR⟩ := ih hb
      exact ⟨a', List.mem_cons_of_mem a ha', hR⟩

theorem exists_right_of_forall₂ {R : α → β → Prop} {as : List α} {bs : List β}
    (h : List.Forall₂ R as bs) {a : α} (ha : a ∈ as) : ∃ b ∈ bs, R a b :=
  exists_left_of_forall₂ h.flip ha

/-- The first hits of two searches agree if all their hits do. -/
theorem rel_head? {R : α → β → Prop} {as : List α} {bs : List β} (h : List.Forall₂ R as bs) :
    Option.Rel R as.head? bs.head? := by
  cases h with
  | nil => exact .none
  | cons hhead _ => exact .some hhead

/-- The last hits of two searches agree if all their hits do. -/
theorem rel_getLast? {R : α → β → Prop} {as : List α} {bs : List β} (h : List.Forall₂ R as bs) :
    Option.Rel R as.getLast? bs.getLast? := by
  rw [List.getLast?_eq_head?_reverse, List.getLast?_eq_head?_reverse]
  exact rel_head? (List.rel_reverse h)

theorem rel_or {R : α → β → Prop} {o o' : Option α} {p p' : Option β} (h : Option.Rel R o p)
    (h' : Option.Rel R o' p') : Option.Rel R (o.or o') (p.or p') := by
  cases h with
  | none => exact h'
  | some ha => exact .some ha

theorem bind_congr_of_rel {R : α → β → Prop} {γ : Type} {o : Option α} {p : Option β}
    {f : α → Option γ} {g : β → Option γ} (h : Option.Rel R o p) (hfg : ∀ a b, R a b → f a = g b) :
    o.bind f = p.bind g := by
  cases h with
  | none => rfl
  | some ha => exact hfg _ _ ha

/-- Computations that agree on items that agree have the same outcome on lists of them. -/
theorem mapM_congr_of_forall₂ {R : α → β → Prop} {f : α → Except ε ε'} {g : β → Except ε ε'}
    {as : List α} {bs : List β} (h : List.Forall₂ R as bs) (hfg : ∀ a b, R a b → f a = g b) :
    as.mapM f = bs.mapM g := by
  induction h with
  | nil => rfl
  | cons hhead _ ih => rw [List.mapM_cons, List.mapM_cons, hfg _ _ hhead, ih]

/-! ### Two outcomes -/

/-- Two outcomes are the same error, or results that are related. -/
inductive Alike (R : α → β → Prop) : Except ε α → Except ε β → Prop
  /-- Both fail, with the same error. -/
  | error (e : ε) : Alike R (.error e) (.error e)
  /-- Both succeed. -/
  | ok {a : α} {b : β} : R a b → Alike R (.ok a) (.ok b)

/-- What follows one and the same computation decides whether the outcomes are alike. -/
theorem Alike.bind {γ : Type} {R : α → β → Prop} (x : Except ε γ) {f : γ → Except ε α}
    {g : γ → Except ε β} (h : ∀ c, Alike R (f c) (g c)) : Alike R (x >>= f) (x >>= g) := by
  cases x with
  | error e => exact .error e
  | ok c => exact h c

theorem Alike.mapError {R : α → β → Prop} {x : Except ε α} {y : Except ε β} (f : ε → ε')
    (h : Alike R x y) : Alike R (x.mapError f) (y.mapError f) := by
  cases h with
  | error e => exact .error (f e)
  | ok hab => exact .ok hab

/-- Computations that are alike on each item of a list are alike on the list: the first failure is
the same, and the results agree one by one. -/
theorem Alike.mapM {γ : Type} {R : α → β → Prop} {f : γ → Except ε α} {g : γ → Except ε β}
    (h : ∀ c, Alike R (f c) (g c)) (cs : List γ) :
    Alike (List.Forall₂ R) (cs.mapM f) (cs.mapM g) := by
  induction cs with
  | nil => exact .ok .nil
  | cons c cs ih =>
    rw [List.mapM_cons, List.mapM_cons]
    have hc := h c
    generalize f c = x at hc ⊢
    generalize g c = y at hc ⊢
    cases hc with
    | error e => exact .error e
    | ok hab =>
      generalize cs.mapM f = xs at ih ⊢
      generalize cs.mapM g = ys at ih ⊢
      cases ih with
      | error e => exact .error e
      | ok hrest => exact .ok (.cons hab hrest)

/-! ### Errors that may go away -/

/-- The second outcome is the first one, unless that is an error of a kind that may go away. -/
inductive Remains (fades : ε → Prop) : Except ε α → Except ε α → Prop
  /-- Nothing changes. -/
  | same (x : Except ε α) : Remains fades x x
  /-- The error may go away, and then anything may come of it. -/
  | faded {e : ε} (h : fades e) (y : Except ε α) : Remains fades (.error e) y

variable {fades : ε → Prop}

/-- A result remains. -/
theorem Remains.eq_ok {x y : Except ε α} {a : α} (h : Remains fades x y) (hx : x = .ok a) :
    y = .ok a := by
  cases h with
  | same => exact hx
  | faded => cases hx

/-- An error of another kind remains. -/
theorem Remains.eq_error {x y : Except ε α} {e : ε} (h : Remains fades x y) (hx : x = .error e)
    (he : ¬ fades e) : y = .error e := by
  cases h with
  | same => exact hx
  | faded hfades =>
    cases hx
    exact absurd hfades he

/-- A sequence remains if its parts do: what comes behind an error that has gone away was not
reached before. -/
theorem Remains.bind {x y : Except ε α} {f g : α → Except ε β} (h : Remains fades x y)
    (hfg : ∀ a, Remains fades (f a) (g a)) : Remains fades (x >>= f) (y >>= g) := by
  cases h with
  | same =>
    cases x with
    | error e => exact .same _
    | ok a => exact hfg a
  | faded hfades => exact .faded hfades _

theorem Remains.mapM {f g : α → Except ε β} (h : ∀ a, Remains fades (f a) (g a)) (as : List α) :
    Remains fades (as.mapM f) (as.mapM g) := by
  induction as with
  | nil => exact .same _
  | cons a as ih =>
    rw [List.mapM_cons, List.mapM_cons]
    exact (h a).bind fun b => ih.bind fun bs => .same _

end EntityForge.Outcome
