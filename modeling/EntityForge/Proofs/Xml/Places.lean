import EntityForge.Proofs.Xml.Elements

/-!
# Places in a tree

The place of an element is the way that leads to it from the root: the number of the child that is
taken, level by level. Places are ordered as lists of numbers are. So a place comes before those it
is the beginning of, and where two ways part, the one that takes the earlier child comes first. This
is the order in which the elements begin.

The elements strictly below an element are those at the places other than the empty one. Listed by
their places they are all elements below in document order, and the first element of a name in that
list is the one at the first place below that has an element of the name.
-/

namespace EntityForge.Xml

/-- The way to an element of a tree: the number of the child at each level, from the root down. -/
abbrev Place := List Nat

namespace Element

/-- The element at a place, if there is one. -/
def at? (e : Element) : Place → Option Element
  | [] => some e
  | i :: p => e.children[i]?.bind fun c => c.at? p

mutual

/-- All elements below an element with their places, in document order. -/
def placed (e : Element) : List (Place × Element) :=
  match e with
  | ⟨_, _, children, _⟩ => placedFrom 0 children

/-- Some elements and all those below them with their places, in document order. The first element
is the child of a number, and the others are the children behind it. -/
def placedFrom (i : Nat) (es : List Element) : List (Place × Element) :=
  match es with
  | [] => []
  | e :: rest => ([i], e) :: (e.placed.map (fun x => (i :: x.1, x.2)) ++ placedFrom (i + 1) rest)

end

theorem placed_eq (e : Element) : e.placed = placedFrom 0 e.children := by
  cases e
  rw [placed]

mutual

theorem map_placed (e : Element) : e.placed.map (·.2) = e.descendants := by
  match e with
  | ⟨_, _, children, _⟩ =>
    rw [placed, descendants]
    exact map_placedFrom 0 children

theorem map_placedFrom (i : Nat) (es : List Element) :
    (placedFrom i es).map (·.2) = preorder es := by
  match es with
  | [] => rfl
  | e :: rest =>
    rw [placedFrom, preorder, List.map_cons, List.map_append, List.map_map,
      map_placedFrom (i + 1) rest, ← map_placed e]
    rfl

end

/-- What stands among some elements or below them begins its place with the number of one of them,
and goes on as it does inside that one. -/
theorem mem_placedFrom {i : Nat} {es : List Element} {p : Place} {d : Element} :
    (p, d) ∈ placedFrom i es ↔ ∃ k q c, p = (i + k) :: q ∧ es[k]? = some c ∧
      (q = [] ∧ d = c ∨ (q, d) ∈ c.placed) := by
  induction es generalizing i with
  | nil => simp [placedFrom]
  | cons e rest ih =>
    rw [placedFrom, List.mem_cons, List.mem_append, ih]
    constructor
    · rintro (h | h | ⟨k, q, c, rfl, hc, hd⟩)
      · obtain ⟨rfl, rfl⟩ := Prod.mk.inj h
        exact ⟨0, [], d, rfl, rfl, .inl ⟨rfl, rfl⟩⟩
      · obtain ⟨⟨q, d'⟩, hd, h⟩ := List.mem_map.mp h
        obtain ⟨rfl, rfl⟩ := Prod.mk.inj h
        exact ⟨0, q, e, rfl, rfl, .inr hd⟩
      · exact ⟨k + 1, q, c, by rw [Nat.add_right_comm, Nat.add_assoc], hc, hd⟩
    · rintro ⟨k, q, c, rfl, hc, hd⟩
      cases k with
      | zero =>
        obtain rfl : e = c := Option.some.inj hc
        rcases hd with ⟨rfl, rfl⟩ | hd
        · exact .inl rfl
        · exact .inr (.inl (List.mem_map.mpr ⟨(q, d), hd, rfl⟩))
      | succ k =>
        exact .inr (.inr ⟨k, q, c, by rw [Nat.add_right_comm, Nat.add_assoc], hc, hd⟩)

/-- An element is listed with every place below at which it stands. -/
theorem mem_placed {e : Element} {p : Place} {d : Element} :
    (p, d) ∈ e.placed ↔ p ≠ [] ∧ e.at? p = some d := by
  induction p generalizing e with
  | nil =>
    rw [placed_eq, mem_placedFrom]
    simp
  | cons i p ih =>
    rw [placed_eq, mem_placedFrom, at?, Option.bind_eq_some_iff]
    -- what stands at the child itself is the case of the empty way
    have hway : ∀ c : Element, (p = [] ∧ d = c ∨ (p, d) ∈ c.placed) ↔ c.at? p = some d := by
      intro c
      rw [ih]
      cases p with
      | nil => simp [at?, eq_comm]
      | cons j q => simp
    constructor
    · rintro ⟨k, q, c, h, hc, hd⟩
      obtain ⟨rfl, rfl⟩ := List.cons.inj h
      rw [Nat.zero_add]
      exact ⟨List.cons_ne_nil _ _, c, hc, (hway c).mp hd⟩
    · rintro ⟨-, c, hc, hd⟩
      exact ⟨i, p, c, by rw [Nat.zero_add], hc, (hway c).mpr hd⟩

mutual

theorem ordered_placed (e : Element) : e.placed.Pairwise (·.1 < ·.1) := by
  match e with
  | ⟨_, _, children, _⟩ =>
    rw [placed]
    exact ordered_placedFrom 0 children

theorem ordered_placedFrom (i : Nat) (es : List Element) :
    (placedFrom i es).Pairwise (·.1 < ·.1) := by
  match es with
  | [] => exact .nil
  | e :: rest =>
    have hinside : ∀ x ∈ e.placed.map (fun x => (i :: x.1, x.2)), ∃ p ≠ [], x.1 = i :: p := by
      intro x hx
      obtain ⟨⟨p, d⟩, hd, rfl⟩ := List.mem_map.mp hx
      exact ⟨p, (mem_placed.mp hd).1, rfl⟩
    have hbehind : ∀ x ∈ placedFrom (i + 1) rest, ∃ j q, i < j ∧ x.1 = j :: q := by
      rintro ⟨p, d⟩ hx
      obtain ⟨k, q, c, rfl, -⟩ := mem_placedFrom.mp hx
      exact ⟨i + 1 + k, q, by omega, rfl⟩
    rw [placedFrom, List.pairwise_cons, List.pairwise_append, List.pairwise_map]
    refine ⟨fun x hx => ?_, ?_, ordered_placedFrom (i + 1) rest, fun x hx y hy => ?_⟩
    · -- the element itself comes before those below it and those behind it
      rcases List.mem_append.mp hx with hx | hx
      · obtain ⟨p, hp, hxp⟩ := hinside x hx
        obtain ⟨j, q, rfl⟩ := List.exists_cons_of_ne_nil hp
        rw [hxp]
        exact List.cons_lt_cons_iff.mpr (.inr ⟨rfl, List.nil_lt_cons j q⟩)
      · obtain ⟨j, q, hij, hxq⟩ := hbehind x hx
        rw [hxq]
        exact List.cons_lt_cons_iff.mpr (.inl hij)
    · exact (ordered_placed e).imp fun h => List.cons_lt_cons_iff.mpr (.inr ⟨rfl, h⟩)
    · -- what is below it comes before what is behind it
      obtain ⟨p, -, hxp⟩ := hinside x hx
      obtain ⟨j, q, hij, hyq⟩ := hbehind y hy
      rw [hxp, hyq]
      exact List.cons_lt_cons_iff.mpr (.inl hij)

end

/-- A list of the elements strictly below an element, with their places. -/
structure Listing (e : Element) (entries : List (Place × Element)) : Prop where
  /-- The places are in document order, so that none of them occurs twice. -/
  ordered : entries.Pairwise (·.1 < ·.1)
  /-- The entries are the places other than that of the element itself, with what stands there. -/
  mem_iff : ∀ p d, (p, d) ∈ entries ↔ p ≠ [] ∧ e.at? p = some d

/-- The elements below are all listed, each once and in document order. -/
theorem listing_placed (e : Element) : Listing e e.placed :=
  ⟨ordered_placed e, fun _ _ => mem_placed⟩

/-- The first place strictly below an element with an element of a name. -/
structure FirstBelow (e : Element) (name : String) (p : Place) (d : Element) : Prop where
  /-- The place is not that of the element itself. -/
  below : p ≠ []
  /-- The element stands there. -/
  found : e.at? p = some d
  /-- It has the name. -/
  named : d.name = name
  /-- No element at a place before it has the name, the element itself apart. -/
  first : ∀ q ≠ [], q < p → ∀ d', e.at? q = some d' → d'.name ≠ name

/-- The first entry of a name is that of the first place. -/
theorem Listing.find?_eq_some {e : Element} {entries : List (Place × Element)} {name : String}
    (h : Listing e entries) {p : Place} {d : Element} :
    entries.find? (·.2.name == name) = some (p, d) ↔ FirstBelow e name p d := by
  rw [List.find?_eq_some_iff_append, beq_iff_eq]
  constructor
  · rintro ⟨hname, before, after, hsplit, hbefore⟩
    have hordered := h.ordered
    rw [hsplit, List.pairwise_append, List.pairwise_cons] at hordered
    obtain ⟨hp, hd⟩ := (h.mem_iff p d).mp (by rw [hsplit]; simp)
    refine ⟨hp, hd, hname, fun q hq hlt d' hd' => ?_⟩
    -- an entry whose place comes before that of the hit is listed in front of it
    have hmem := (h.mem_iff q d').mpr ⟨hq, hd'⟩
    rw [hsplit, List.mem_append, List.mem_cons] at hmem
    rcases hmem with hmem | heq | hmem
    · simpa using hbefore _ hmem
    · obtain ⟨rfl, -⟩ := Prod.mk.inj heq
      exact absurd hlt (List.lt_irrefl q)
    · exact absurd hlt (List.lt_asymm (hordered.2.1.1 _ hmem))
  · rintro ⟨hp, hd, hname, hfirst⟩
    obtain ⟨before, after, hsplit⟩ := List.append_of_mem ((h.mem_iff p d).mpr ⟨hp, hd⟩)
    refine ⟨hname, before, after, hsplit, fun x hx => ?_⟩
    obtain ⟨hq, hd'⟩ := (h.mem_iff x.1 x.2).mp (by rw [hsplit]; exact List.mem_append_left _ hx)
    have hordered := h.ordered
    rw [hsplit, List.pairwise_append] at hordered
    have hlt := hordered.2.2 x hx (p, d) List.mem_cons_self
    simpa using hfirst x.1 hq hlt x.2 hd'

end Element

end EntityForge.Xml
