/-!
# Sets of code points

A set of code points is written as closed ranges in ascending order, with a gap between any two of
them, so that equal sets are written alike. Sets are joined, met and complemented by their ranges.
-/

namespace EntityForge

/-- A set of code points: closed ranges in ascending order with gaps between them. -/
structure CodeSet where
  /-- The ranges. -/
  ranges : List (Nat × Nat)
  deriving DecidableEq, Repr

namespace CodeSet

/-- Puts a range before ranges that begin no earlier, and joins those that it touches. -/
def absorb (first last : Nat) : List (Nat × Nat) → List (Nat × Nat)
  | [] => [(first, last)]
  | (a, b) :: rest =>
    if a ≤ last + 1 then absorb first (max last b) rest else (first, last) :: (a, b) :: rest

/-- Ranges whose beginnings ascend, joined where they touch. -/
def joined : List (Nat × Nat) → List (Nat × Nat)
  | [] => []
  | (a, b) :: rest => absorb a b (joined rest)

/-- The set of all code points in some range of a list. -/
def ofRanges (rs : List (Nat × Nat)) : CodeSet :=
  ⟨joined (rs.mergeSort fun r s => r.1 ≤ s.1)⟩

/-- The set without a code point. -/
def empty : CodeSet := ⟨[]⟩

/-- The set of one character. -/
def single (c : Char) : CodeSet := ⟨[(c.toNat, c.toNat)]⟩

/-- The set of the characters from one to another. -/
def between (first last : Char) : CodeSet := ⟨[(first.toNat, last.toNat)]⟩

/-- Whether a set holds a character. -/
def holds (s : CodeSet) (c : Char) : Bool :=
  s.ranges.any fun (first, last) => first ≤ c.toNat && c.toNat ≤ last

/-- What two sets hold together. -/
def union (s t : CodeSet) : CodeSet :=
  ofRanges (s.ranges ++ t.ranges)

/-- The gaps of ascending ranges from a code point up to another. -/
def gaps (first last : Nat) : List (Nat × Nat) → List (Nat × Nat)
  | [] => if first ≤ last then [(first, last)] else []
  | (a, b) :: rest =>
    (if first < a then [(first, a - 1)] else []) ++ gaps (b + 1) last rest

/-- The code points up to one that a set does not hold. -/
def complement (last : Nat) (s : CodeSet) : CodeSet :=
  ⟨gaps 0 last s.ranges⟩

/-- The last of all code points. -/
def lastCode : Nat := 0x10FFFF

/-- What a set holds and another one does not. -/
def minus (s t : CodeSet) : CodeSet :=
  ((s.complement lastCode).union t).complement lastCode

/-- What two sets both hold. -/
def inter (s t : CodeSet) : CodeSet :=
  s.minus (s.minus t)

/-- What just one of two sets holds. -/
def exclusive (s t : CodeSet) : CodeSet :=
  (s.minus t).union (t.minus s)

/-- Whether a set holds ASCII characters only. -/
def isAscii (s : CodeSet) : Bool :=
  s.ranges.all (·.2 < 128)

/-- A set with both cases of each ASCII letter that it holds. -/
def anyCase (s : CodeSet) : CodeSet :=
  let lower := s.inter (between 'a' 'z')
  let upper := s.inter (between 'A' 'Z')
  let moved := lower.ranges.map (fun (a, b) => (a - 32, b - 32)) ++
    upper.ranges.map fun (a, b) => (a + 32, b + 32)
  ofRanges (s.ranges ++ moved)

end CodeSet

end EntityForge
