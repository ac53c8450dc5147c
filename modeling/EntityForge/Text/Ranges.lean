/-!
# Tables of code point ranges

Character properties are tables of closed ranges. A table is consulted by walking over it.
-/

namespace EntityForge.Text

/-- Whether some closed range of `table` holds the character. -/
def inRanges (table : Array (Nat × Nat)) (c : Char) : Bool :=
  table.any fun (first, last) => first ≤ c.toNat && c.toNat ≤ last

end EntityForge.Text
