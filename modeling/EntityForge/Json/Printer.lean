import EntityForge.Json.Value
import EntityForge.Text.Quoted

/-!
# Writing JSON

Values are written over several lines, each level indented by two blanks, with every item and member
on a line of its own. Empty containers stay on one line. In texts, quotes, backslashes and control
characters are escaped and nothing else.
-/

namespace EntityForge.Json

/-- A hexadecimal digit in lower case. -/
def hexDigitChar (n : Nat) : Char :=
  if n < 10 then Char.ofNat ('0'.toNat + n) else Char.ofNat ('a'.toNat + (n - 10))

/-- A character inside quotes. -/
def escapeChar (c : Char) : List Char :=
  if c = '"' then ['\\', '"']
  else if c = '\\' then ['\\', '\\']
  else if c = '\x08' then ['\\', 'b']
  else if c = '\x0c' then ['\\', 'f']
  else if c = '\n' then ['\\', 'n']
  else if c = '\r' then ['\\', 'r']
  else if c = '\t' then ['\\', 't']
  else if c.toNat < 0x20 then
    ['\\', 'u', '0', '0', hexDigitChar (c.toNat / 16), hexDigitChar (c.toNat % 16)]
  else [c]

/-- A text between quotes. -/
def stringText (s : String) : List Char :=
  '"' :: (s.toList.flatMap escapeChar ++ ['"'])

/-- A new line at a level of indentation. -/
def newLine (level : Nat) : List Char :=
  '\n' :: List.replicate (2 * level) ' '

mutual

/-- A value over several lines, at a level of indentation. -/
def prettyAt (level : Nat) : Value → List Char
  | .null | .broken => "null".toList
  | .bool true => "true".toList
  | .bool false => "false".toList
  | .number digits => digits.toList
  | .string text => stringText (text.getD "")
  | .array [] _ => ['[', ']']
  | .array (v :: rest) _ =>
    '[' :: (newLine (level + 1) ++ prettyAt (level + 1) v ++ prettyItems (level + 1) rest ++
      newLine level ++ [']'])
  | .object [] _ => ['\x7b', '\x7d']
  | .object ((key, v) :: rest) _ =>
    '\x7b' :: (newLine (level + 1) ++ stringText (key.getD "") ++ [':', ' '] ++
      prettyAt (level + 1) v ++ prettyMembers (level + 1) rest ++ newLine level ++ ['\x7d'])

/-- The items of an array after the first. -/
def prettyItems (level : Nat) : List Value → List Char
  | [] => []
  | v :: rest => ',' :: (newLine level ++ prettyAt level v ++ prettyItems level rest)

/-- The members of an object after the first. -/
def prettyMembers (level : Nat) : List (Option String × Value) → List Char
  | [] => []
  | (key, v) :: rest =>
    ',' :: (newLine level ++ stringText (key.getD "") ++ [':', ' '] ++ prettyAt level v ++
      prettyMembers level rest)

end

/-- A value over several lines. -/
def Value.pretty (v : Value) : String :=
  String.ofList (prettyAt 0 v)

mutual

/-- A value on one line without blanks. -/
def compactText : Value → List Char
  | .null | .broken => "null".toList
  | .bool true => "true".toList
  | .bool false => "false".toList
  | .number digits => digits.toList
  | .string text => stringText (text.getD "")
  | .array [] _ => ['[', ']']
  | .array (v :: rest) _ => '[' :: (compactText v ++ compactItems rest ++ [']'])
  | .object [] _ => ['\x7b', '\x7d']
  | .object ((key, v) :: rest) _ =>
    '\x7b' :: (stringText (key.getD "") ++ [':'] ++ compactText v ++ compactMembers rest ++
      ['\x7d'])

/-- The items of an array after the first, on one line. -/
def compactItems : List Value → List Char
  | [] => []
  | v :: rest => ',' :: (compactText v ++ compactItems rest)

/-- The members of an object after the first, on one line. -/
def compactMembers : List (Option String × Value) → List Char
  | [] => []
  | (key, v) :: rest =>
    ',' :: (stringText (key.getD "") ++ [':'] ++ compactText v ++ compactMembers rest)

end

/-- A value on one line. -/
def Value.compact (v : Value) : String :=
  String.ofList (compactText v)

end EntityForge.Json
