import EntityForge.Text.Ranges
import EntityForge.Text.CaseTable

/-!
# Upper and lower case

The full case mappings of the Unicode character set, free of any locale. A letter may become several
letters in upper case. In lower case only two letters are special: a dotted capital I becomes two
characters, and a capital sigma that ends a word becomes a final sigma.
-/

namespace EntityForge.Text

/-- The image of a code point under a table of runs. -/
def mapRuns (table : Array (Nat × Nat × Nat × Nat)) (n : Nat) : Option Nat :=
  (table.find? fun (first, last, step, _) =>
    first ≤ n && n ≤ last && (n - first) % step == 0).map fun (first, _, _, target) =>
      target + (n - first)

/-- The upper case of a character. -/
def upper (c : Char) : List Char :=
  if c.toNat < 128 then [c.toUpper] else
    match upperExpansions.find? fun row => row.1 == c.toNat with
    | some (_, a, b, 0) => [Char.ofNat a, Char.ofNat b]
    | some (_, a, b, d) => [Char.ofNat a, Char.ofNat b, Char.ofNat d]
    | none => [((mapRuns upperRuns c.toNat).map Char.ofNat).getD c]

/-- The lower case of a character that stands alone. -/
def lower (c : Char) : List Char :=
  if c.toNat < 128 then [c.toLower] else
    if c.toNat = 0x130 then ['i', Char.ofNat 0x307] else
      [((mapRuns lowerRuns c.toNat).map Char.ofNat).getD c]

/-- Whether a character has case. -/
def isCased (c : Char) : Bool :=
  if c.toNat < 128 then c.isAlpha else inRanges casedRanges c

/-- Whether a character is passed over when the neighbours of a sigma are looked at. -/
def isCaseIgnorable (c : Char) : Bool :=
  inRanges caseIgnorableRanges c

/-- Whether the nearest character that is not passed over has case. -/
def startsCased (cs : List Char) : Bool :=
  match cs.dropWhile isCaseIgnorable with
  | [] => false
  | c :: _ => isCased c

/-- The upper case of a text. -/
def upperText (cs : List Char) : List Char :=
  cs.flatMap upper

/-- The lower case of a text whose characters so far were `before`, the nearest first. -/
def lowerFrom (before : List Char) : List Char → List Char
  | [] => []
  | c :: cs =>
    let image := if c = 'Σ' ∧ startsCased before ∧ ¬ startsCased cs then ['ς'] else lower c
    image ++ lowerFrom (c :: before) cs

/-- The lower case of a text. -/
def lowerText (cs : List Char) : List Char :=
  lowerFrom [] cs

/-- A text in ASCII lower case: the letters from `A` to `Z` and no other are changed. -/
def asciiLower (s : String) : String :=
  s.map Char.toLower

end EntityForge.Text
