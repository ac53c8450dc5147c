import EntityForge.Text.Ranges
import EntityForge.Text.ClusterTable

/-!
# Grapheme clusters

A text falls into extended grapheme clusters, the characters as a reader sees them: a base character
with the marks on it, a pair of regional indicators, a joined emoji, consonants of an Indic script
that a linker joins. The boundary rules look at the class of the two characters at a position and at
a short summary of the cluster before it.
-/

namespace EntityForge.Text

/-- The class of a character for the boundary rules. -/
inductive ClusterClass
  /-- A carriage return. -/
  | cr
  /-- A line feed. -/
  | lf
  /-- A control character, never joined to anything. -/
  | control
  /-- A mark that joins the character before it. -/
  | extend
  /-- A mark that also joins consonants of an Indic script. -/
  | linker
  /-- The zero width non-joiner, a mark that keeps consonants apart. -/
  | nonJoiner
  /-- The zero width joiner. -/
  | joiner
  /-- A spacing mark that joins the character before it. -/
  | spacingMark
  /-- A sign that joins the character after it. -/
  | prepend
  /-- One half of a flag. -/
  | regional
  /-- A leading Hangul consonant. -/
  | hangulL
  /-- A vowel that joins others as those of Hangul do. -/
  | hangulV
  /-- A trailing Hangul consonant. -/
  | hangulT
  /-- A Hangul syllable without a trailing consonant. -/
  | hangulLV
  /-- A Hangul syllable with a trailing consonant. -/
  | hangulLVT
  /-- An emoji or another pictograph. -/
  | pictograph
  /-- A consonant of an Indic script. -/
  | consonant
  /-- Any other character. -/
  | other
  deriving DecidableEq, Repr

namespace ClusterClass

/-- The class of a character. -/
def ofChar (c : Char) : ClusterClass :=
  let n := c.toNat
  if n = 0x0D then cr
  else if n = 0x0A then lf
  else if 0x20 ≤ n ∧ n < 0x7F then other
  else if n = 0x200D then joiner
  else if n = 0x200C then nonJoiner
  else if inRanges controlRanges c then control
  else if inRanges linkerRanges c then linker
  else if inRanges extendRanges c then extend
  else if inRanges spacingMarkRanges c then spacingMark
  else if inRanges prependRanges c then prepend
  else if 0x1F1E6 ≤ n ∧ n ≤ 0x1F1FF then regional
  else if (0x1100 ≤ n ∧ n ≤ 0x115F) ∨ (0xA960 ≤ n ∧ n ≤ 0xA97C) then hangulL
  else if (0x1160 ≤ n ∧ n ≤ 0x11A7) ∨ (0xD7B0 ≤ n ∧ n ≤ 0xD7C6) ∨ n = 0x16D63 ∨
      (0x16D67 ≤ n ∧ n ≤ 0x16D6A) then hangulV
  else if (0x11A8 ≤ n ∧ n ≤ 0x11FF) ∨ (0xD7CB ≤ n ∧ n ≤ 0xD7FB) then hangulT
  else if 0xAC00 ≤ n ∧ n ≤ 0xD7A3 then
    if (n - 0xAC00) % 28 = 0 then hangulLV else hangulLVT
  else if inRanges pictographicRanges c then pictograph
  else if inRanges consonantRanges c then consonant
  else other

/-- Whether a class is that of a mark that joins the character before it. -/
def isMark (k : ClusterClass) : Bool :=
  k == extend || k == linker || k == nonJoiner

end ClusterClass

/-- What the boundary rules remember of the cluster read so far. -/
structure ClusterState where
  /-- The class of its last character. -/
  last : ClusterClass
  /-- Whether it ends in a flag half that still lacks its other half. -/
  halfFlag : Bool
  /-- Whether it is a pictograph, marks, and nothing else so far but a joiner at the end. -/
  pictographic : Bool
  /-- Whether it ends in a consonant and marks that keep no consonants apart. -/
  conjunct : Bool
  /-- Whether there is a linker among these marks. -/
  linked : Bool

namespace ClusterState

/-- The state after the first character of a cluster. -/
def start (k : ClusterClass) : ClusterState :=
  ⟨k, k == .regional, k == .pictograph, k == .consonant, false⟩

/-- The state after one more character of the same cluster. -/
def push (s : ClusterState) (k : ClusterClass) : ClusterState :=
  let goesOn := s.conjunct && (k == .extend || k == .linker || k == .joiner)
  ⟨k, k == .regional && !s.halfFlag,
    k == .pictograph || (s.pictographic && s.last != .joiner && (k.isMark || k == .joiner)),
    k == .consonant || goesOn, goesOn && (s.linked || k == .linker)⟩

/-- Whether a character of class `k` goes on with the cluster. -/
def joins (s : ClusterState) (k : ClusterClass) : Bool :=
  match s.last, k with
  | .cr, .lf => true
  | .cr, _ | .lf, _ | .control, _ => false
  | _, .cr | _, .lf | _, .control => false
  | .hangulL, .hangulL | .hangulL, .hangulV | .hangulL, .hangulLV | .hangulL, .hangulLVT => true
  | .hangulLV, .hangulV | .hangulLV, .hangulT | .hangulV, .hangulV | .hangulV, .hangulT => true
  | .hangulLVT, .hangulT | .hangulT, .hangulT => true
  | _, .extend | _, .linker | _, .nonJoiner | _, .joiner | _, .spacingMark => true
  | .prepend, _ => true
  | _, .consonant => s.linked
  | .joiner, .pictograph => s.pictographic
  | .regional, .regional => s.halfFlag
  | _, _ => false

end ClusterState

/-- The clusters of a text whose current cluster, last character first, is `current`. -/
def clustersFrom (state : ClusterState) (current : List Char) : List Char → List (List Char)
  | [] => [current.reverse]
  | c :: cs =>
    let k := ClusterClass.ofChar c
    if state.joins k then clustersFrom (state.push k) (c :: current) cs
    else current.reverse :: clustersFrom (ClusterState.start k) [c] cs

/-- The grapheme clusters of a text, in order. -/
def clusters : List Char → List (List Char)
  | [] => []
  | c :: cs => clustersFrom (ClusterState.start (ClusterClass.ofChar c)) [c] cs

end EntityForge.Text
