import EntityForge.Text.Cluster
import EntityForge.Text.WidthTable

/-!
# Widths of texts

The width of a text is the number of columns that it takes on a page of fixed pitch. Characters take
no column, one or two; what a reader sees as one emoji takes two, and so does a sign that is asked
to show as an emoji. The Arabic letters lam and alef take one column together.
-/

namespace EntityForge.Text

/-- The number of columns that a character takes. -/
def charWidth (c : Char) : Nat :=
  if 0x20 ≤ c.toNat && c.toNat < 0x300 && c != '\u00AD' then 1
  else if inRanges zeroWidthRanges c then 0
  else if inRanges wideRanges c then 2
  else if c = '\u17D8' then 3
  else 1

/-- Whether a character is a pictograph. -/
def isPictograph (c : Char) : Bool :=
  ClusterClass.ofChar c == .pictograph

/-- Whether a character sets the skin colour of the pictograph before it. -/
def isSkinTone (c : Char) : Bool :=
  0x1F3FB ≤ c.toNat && c.toNat ≤ 0x1F3FF

/-- The sign that asks for the character before it to show as an emoji. -/
def emojiSelector : Char := '\uFE0F'

/-- Whether a character shows as an emoji if the selector follows it though it is no pictograph. -/
def isKeycapBase (c : Char) : Bool :=
  c == '#' || c == '*' || ('0' ≤ c && c ≤ '9')

/-- Whether all pictographs of a cluster show as emoji: by themselves or because the selector or a
skin tone follows. -/
def showsEmoji : List Char → Bool
  | [] => true
  | c :: rest =>
    let asked := rest.head?.any fun next => next == emojiSelector || isSkinTone next
    (!isPictograph c || charWidth c == 2 || asked) && showsEmoji rest

/-- The number of columns that a cluster takes. -/
def clusterWidth : List Char → Nat
  | [] => 0
  | ['\r', '\n'] => 1
  | c :: rest =>
    if isPictograph c && showsEmoji (c :: rest) then 2
    else if isKeycapBase c && rest.head? == some emojiSelector then 2
    else (c :: rest).foldr (fun c width => charWidth c + width) 0

/-- Whether a cluster is a lam, with or without marks. -/
def isLam (cluster : List Char) : Bool :=
  cluster.head?.any fun c =>
    ['\u0644', '\u06B5', '\u06B6', '\u06B7', '\u06B8', '\u076A', '\u08A6', '\u08C7'].contains c

/-- Whether a cluster is an alef, with or without marks. -/
def isAlef (cluster : List Char) : Bool :=
  cluster.head?.any fun c =>
    ['\u0622', '\u0623', '\u0625', '\u0627', '\u0671', '\u0672', '\u0673', '\u0675', '\u0773',
      '\u0774'].contains c || (0x0870 ≤ c.toNat && c.toNat ≤ 0x0882)

/-- The number of columns that clusters take. The flag says whether a lam stands before them. -/
def widthOfClusters (afterLam : Bool) : List (List Char) → Nat
  | [] => 0
  | k :: rest =>
    (if afterLam && isAlef k then 0 else clusterWidth k) + widthOfClusters (isLam k) rest

/-- The number of columns that a text takes. -/
def width (text : List Char) : Nat :=
  widthOfClusters false (clusters text)

end EntityForge.Text
