import EntityForge.Text.Ranges
import EntityForge.Text.LetterTable

/-!
# Letters and digits

The two character classes on which identifiers rest.
-/

namespace EntityForge.Text

/-- Whether a character is a letter. -/
def isLetter (c : Char) : Bool :=
  if c.toNat < 128 then c.isAlpha else inRanges alphabeticRanges c

/-- Whether a character is a letter, a digit or another number. -/
def isLetterOrNumber (c : Char) : Bool :=
  if c.toNat < 128 then c.isAlphanum else isLetter c || inRanges numericRanges c

end EntityForge.Text
