/-!
# Words

A word holds a whole number in a fixed number of bits, with a sign or without. Numbers are kept
exactly everywhere; the ranges here say which of them a word could hold.
-/

namespace EntityForge.Word

/-- How many numbers a word of some bits tells apart. -/
def count (bits : Nat) : Nat := Nat.pow 2 bits

/-- A number that a word of some bits holds without a sign. -/
abbrev Unsigned (bits : Nat) (n : Int) : Prop := 0 ≤ n ∧ n < count bits

/-- A number that a word of some bits and a further one for the sign holds. -/
abbrev Signed (bits : Nat) (n : Int) : Prop := -(count bits : Int) ≤ n ∧ n < count bits

end EntityForge.Word
