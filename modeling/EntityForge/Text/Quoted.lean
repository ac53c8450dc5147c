import EntityForge.Text.Ranges
import EntityForge.Text.QuotedTable

/-!
# Quoted texts

A text is quoted for a reader between double quotes. Quotes, backslashes and the usual control
characters have short escapes; every other character that does not show is written by its number.
-/

namespace EntityForge.Text

/-- The lower-case hexadecimal digits of a number. -/
def hexText (n : Nat) : String :=
  String.ofList (Nat.toDigits 16 n)

/-- Whether a character shows on a page. -/
def isVisible (c : Char) : Bool :=
  if 0x20 ≤ c.toNat && c.toNat < 0x7F then true else !inRanges hiddenRanges c

/-- A character inside quotes. -/
def quotedChar (c : Char) : String :=
  if c = '"' then "\\\""
  else if c = '\\' then "\\\\"
  else if c = '\n' then "\\n"
  else if c = '\r' then "\\r"
  else if c = '\t' then "\\t"
  else if c.toNat = 0 then "\\0"
  else if isVisible c then c.toString
  else "\\u\x7b" ++ hexText c.toNat ++ "\x7d"

/-- A text between quotes. -/
def quoted (s : String) : String :=
  "\"" ++ String.join (s.toList.map quotedChar) ++ "\""

end EntityForge.Text
