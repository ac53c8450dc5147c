import EntityForge.Text.Blank
import EntityForge.Xml.Element

/-!
# Ways to write a document

An element tree can be written as a document in many ways. The relations of this module say which
texts write a tree, without a reader: names may bear qualifiers, namespaces may be declared in any
tag, characters may be written as they are or as references, a text may be cut into pieces around
the children of its element and into CDATA sections, and white space, comments and processing
instructions may stand where they have no meaning.

The grammar is wider than that of well-formed documents in what it lets a text contain: characters
that no document may hold can be written like others.

## Names of the relations

A relation with the text last, `R x cs`, says that `cs` is one of the ways to write `x`.
-/

namespace EntityForge.Xml.Grammar

open Text (isBlank)

/-! ### Characters -/

/-- White space of the markup. -/
def Space (cs : List Char) : Prop :=
  ∀ c ∈ cs, c = ' ' ∨ c = '\t' ∨ c = '\n' ∨ c = '\r'

instance (cs : List Char) : Decidable (Space cs) :=
  List.decidableBAll (fun c => c = ' ' ∨ c = '\t' ∨ c = '\n' ∨ c = '\r') cs

/-- Quotes around attribute values. -/
def IsQuote (c : Char) : Prop :=
  c = '"' ∨ c = '\''

instance (c : Char) : Decidable (IsQuote c) :=
  inferInstanceAs (Decidable (c = '"' ∨ c = '\''))

/-- Control characters, which an attribute value does not contain as they are. -/
def IsControl (c : Char) : Prop :=
  c.toNat < 0x20 ∨ 0x7F ≤ c.toNat ∧ c.toNat ≤ 0x9F

instance (c : Char) : Decidable (IsControl c) :=
  inferInstanceAs (Decidable (c.toNat < 0x20 ∨ 0x7F ≤ c.toNat ∧ c.toNat ≤ 0x9F))

/-! ### Names -/

/-- The characters that a name without colons can begin with. -/
def nameStartRanges : List (Nat × Nat) := [
  (0x41, 0x5A), (0x5F, 0x5F), (0x61, 0x7A), (0xC0, 0xD6), (0xD8, 0xF6), (0xF8, 0x2FF),
  (0x370, 0x37D), (0x37F, 0x1FFF), (0x200C, 0x200D), (0x2070, 0x218F), (0x2C00, 0x2FEF),
  (0x3001, 0xD7FF), (0xF900, 0xFDCF), (0xFDF0, 0xFFFD), (0x10000, 0xEFFFF)]

/-- The characters that a name without colons can go on with, besides those it can begin with. -/
def nameRanges : List (Nat × Nat) := [
  (0x2D, 0x2E), (0x30, 0x39), (0xB7, 0xB7), (0x300, 0x36F), (0x203F, 0x2040)]

/-- Whether a name without colons can begin with a character. -/
def startsName (c : Char) : Bool :=
  nameStartRanges.any fun r => r.1 ≤ c.toNat && c.toNat ≤ r.2

/-- Whether a character can stand in a name without colons. -/
def inName (c : Char) : Bool :=
  startsName c || nameRanges.any fun r => r.1 ≤ c.toNat && c.toNat ≤ r.2

/-- The names without colons. -/
def IsName : List Char → Prop
  | [] => False
  | c :: cs => startsName c = true ∧ ∀ d ∈ cs, inName d = true

instance : ∀ cs : List Char, Decidable (IsName cs)
  | [] => isFalse id
  | c :: cs => decidable_of_iff (startsName c = true ∧ cs.all inName = true) <| by
    rw [IsName, List.all_eq_true]

/-- The name and qualifier that are kept for declarations of namespaces. -/
def xmlns : List Char :=
  ['x', 'm', 'l', 'n', 's']

/-- A name, bare or behind a qualifier and a colon. -/
inductive Qualified (name : String) : List Char → Prop
  /-- The name alone. -/
  | bare : Qualified name name.toList
  /-- The name with a qualifier. -/
  | qualified {qualifier : List Char} : IsName qualifier → qualifier ≠ xmlns →
    Qualified name (qualifier ++ ':' :: name.toList)

/-- The keys that declare namespaces. -/
inductive DeclarationKey : List Char → Prop
  /-- The namespace of names without a qualifier. -/
  | default : DeclarationKey xmlns
  /-- The namespace of a qualifier. -/
  | named {qualifier : List Char} : IsName qualifier →
    DeclarationKey (xmlns ++ ':' :: qualifier)

/-! ### References -/

/-- The digits of a base, the letters in either case. -/
inductive Digit (base : Nat) : Nat → Char → Prop
  /-- A digit, its letter in lower case if it is one. -/
  | lower {d : Nat} : d < base → Digit base d (Nat.digitChar d)
  /-- A digit, its letter in upper case if it is one. -/
  | upper {d : Nat} : d < base → Digit base d (Nat.digitChar d).toUpper

/-- A number by its digits, of which the first ones may be zero. -/
inductive Numeral (base : Nat) : Nat → List Char → Prop
  /-- One digit. -/
  | digit {d : Nat} {c : Char} : Digit base d c → Numeral base d [c]
  /-- One more digit. -/
  | more {n d : Nat} {c : Char} {cs : List Char} : Numeral base n cs → Digit base d c →
    Numeral base (base * n + d) (cs ++ [c])

/-- What stands between `&` and `;` for a character. -/
inductive Reference : Char → List Char → Prop
  /-- The angle bracket that opens a tag. -/
  | lt : Reference '<' ['l', 't']
  /-- The angle bracket that closes a tag. -/
  | gt : Reference '>' ['g', 't']
  /-- The ampersand. -/
  | amp : Reference '&' ['a', 'm', 'p']
  /-- The single quote. -/
  | apos : Reference '\'' ['a', 'p', 'o', 's']
  /-- The double quote. -/
  | quot : Reference '"' ['q', 'u', 'o', 't']
  /-- The number of the character in decimal. -/
  | decimal {c : Char} {digits : List Char} : c.toNat ≠ 0 → Numeral 10 c.toNat digits →
    Reference c ('#' :: digits)
  /-- The number of the character in hexadecimal. -/
  | hexadecimal {c : Char} {digits : List Char} : c.toNat ≠ 0 → Numeral 16 c.toNat digits →
    Reference c ('#' :: 'x' :: digits)

/-! ### Tags -/

/-- The value of an attribute, between quotes of a kind. -/
inductive Value (quote : Char) : List Char → List Char → Prop
  /-- Nothing is left. -/
  | nil : Value quote [] []
  /-- A character as it is. -/
  | char {c : Char} {value cs : List Char} : c ≠ '<' → c ≠ '&' → c ≠ quote → ¬ IsControl c →
    Value quote value cs → Value quote (c :: value) (c :: cs)
  /-- A reference. -/
  | reference {c : Char} {name value cs : List Char} : Reference c name → Value quote value cs →
    Value quote (c :: value) ('&' :: (name ++ ';' :: cs))

/-- A key that is set to a value, behind white space. -/
inductive Setting (key : List Char) (value : String) : List Char → Prop
  /-- The key, an equals sign and the value in quotes. -/
  | intro {gap before after cs : List Char} {quote : Char} : gap ≠ [] → Space gap → Space before →
    Space after → IsQuote quote → Value quote value.toList cs →
    Setting key value (gap ++ (key ++ (before ++ '=' :: (after ++ quote :: (cs ++ [quote])))))

/-- Attributes among declarations of namespaces. `declared` holds the keys of the declarations. -/
inductive Attributes : List (List Char) → List (String × String) → List Char → Prop
  /-- Nothing is left. -/
  | nil : Attributes [] [] []
  /-- An attribute. -/
  | assigned {name value : String} {key setting cs : List Char} {declared : List (List Char)}
    {attributes : List (String × String)} : Qualified name key → Setting key value setting →
    Attributes declared attributes cs →
    Attributes declared ((name, value) :: attributes) (setting ++ cs)
  /-- The declaration of a namespace. -/
  | declaration {uri : String} {key setting cs : List Char} {declared : List (List Char)}
    {attributes : List (String × String)} : DeclarationKey key → Setting key uri setting →
    Attributes declared attributes cs → Attributes (key :: declared) attributes (setting ++ cs)

/-- The content of a start tag. `key` is the name of the element as it is written. -/
inductive Tag (name : String) (attributes : List (String × String)) (key : List Char) :
    List Char → Prop
  /-- The name and the attributes. -/
  | intro {declared : List (List Char)} {cs space : List Char} : Qualified name key →
    Attributes declared attributes cs → declared.Nodup → Space space →
    Tag name attributes key (key ++ (cs ++ space))

/-! ### Elements -/

/-- What may stand anywhere in content and says nothing. -/
inductive Aside : List Char → Prop
  /-- A comment. -/
  | comment {cs : List Char} : ¬ ['-', '-', '>'] <:+: cs →
    Aside ('<' :: '!' :: '-' :: '-' :: (cs ++ ['-', '-', '>']))
  /-- A processing instruction or a declaration. -/
  | instruction {cs : List Char} : ¬ ['?', '>'] <:+: '?' :: cs →
    Aside ('<' :: '?' :: (cs ++ ['?', '>']))

/-- What follows `<!` in a CDATA section. -/
def cdataStart : List Char :=
  ['[', 'C', 'D', 'A', 'T', 'A', '[']

/-- A text with blank characters around it. -/
inductive Padded (text : List Char) : List Char → Prop
  /-- Blank characters in front of the text and behind it. -/
  | intro {before after : List Char} : (∀ c ∈ before, isBlank c = true) →
    (∀ c ∈ after, isBlank c = true) → Padded text (before ++ (text ++ after))

mutual

/-- An element. -/
inductive Written : Element → List Char → Prop
  /-- An element without content, as one tag. -/
  | empty {name : String} {attributes : List (String × String)} {key tag : List Char} :
    Tag name attributes key tag →
    Written ⟨name, attributes, [], ""⟩ ('<' :: (tag ++ ['/', '>']))
  /-- An element between its two tags. -/
  | full {name text : String} {attributes : List (String × String)} {children : List Element}
    {key tag all content space : List Char} : Tag name attributes key tag →
    Content children all content → Padded text.toList all → Space space →
    Written ⟨name, attributes, children, text⟩
      ('<' :: (tag ++ '>' :: (content ++ '<' :: '/' :: (key ++ (space ++ ['>'])))))

/-- Elements and, around them, the characters of a text. -/
inductive Content : List Element → List Char → List Char → Prop
  /-- Nothing is left. -/
  | nil : Content [] [] []
  /-- A character as it is. -/
  | char {c : Char} {elements : List Element} {text cs : List Char} : c ≠ '<' → c ≠ '&' →
    Content elements text cs → Content elements (c :: text) (c :: cs)
  /-- A reference. -/
  | reference {c : Char} {name : List Char} {elements : List Element} {text cs : List Char} :
    Reference c name → Content elements text cs →
    Content elements (c :: text) ('&' :: (name ++ ';' :: cs))
  /-- A CDATA section. -/
  | cdata {piece : List Char} {elements : List Element} {text cs : List Char} :
    ¬ [']', ']', '>'] <:+: piece → Content elements text cs →
    Content elements (piece ++ text)
      ('<' :: '!' :: cdataStart ++ (piece ++ [']', ']', '>'] ++ cs))
  /-- A comment or a processing instruction. -/
  | aside {aside : List Char} {elements : List Element} {text cs : List Char} :
    Aside aside → Content elements text cs → Content elements text (aside ++ cs)
  /-- An element. -/
  | element {e : Element} {markup : List Char} {elements : List Element} {text cs : List Char} :
    Written e markup → Content elements text cs → Content (e :: elements) text (markup ++ cs)

end

/-! ### Documents -/

/-- What may stand before and after the root of a document. -/
inductive Misc : List Char → Prop
  /-- Nothing is left. -/
  | nil : Misc []
  /-- White space. -/
  | space {space cs : List Char} : Space space → Misc cs → Misc (space ++ cs)
  /-- A comment, a processing instruction or a declaration. -/
  | aside {aside cs : List Char} : Aside aside → Misc cs → Misc (aside ++ cs)

/-- A document of a root. -/
inductive Document (root : Element) : String → Prop
  /-- The root with white space, comments and processing instructions around it. -/
  | intro {before markup after : List Char} : Misc before → Written root markup → Misc after →
    Document root (String.ofList (before ++ (markup ++ after)))

/-! ### Trees that can be written -/

/-- The names of an element and its attributes are their own. -/
structure PlainTag (name : String) (attributes : List (String × String)) : Prop where
  /-- The name has no colon. -/
  isName : IsName name.toList
  /-- The names of the attributes have no colons and declare nothing. -/
  isKey : ∀ a ∈ attributes, IsName a.1.toList ∧ a.1 ≠ "xmlns"
  /-- No two attributes have the same name. -/
  distinct : (attributes.map (·.1)).Nodup

/-- A text begins and ends in characters that are not blank, if it has any. -/
structure Trimmed (text : List Char) : Prop where
  /-- The first character. -/
  first : ∀ c ∈ text.head?, isBlank c = false
  /-- The last character. -/
  last : ∀ c ∈ text.getLast?, isBlank c = false

instance (text : List Char) : Decidable (Trimmed text) :=
  decidable_of_iff (text.head?.all (!isBlank ·) = true ∧ text.getLast?.all (!isBlank ·) = true) <| by
    simp only [Option.all_eq_true, Bool.not_eq_true']
    exact ⟨fun h => ⟨h.1, h.2⟩, fun h => ⟨h.1, h.2⟩⟩

/-- The trees whose names have no colons and whose texts are trimmed. -/
inductive Plain : Element → Prop
  /-- The element and all below it have names of their own and trimmed texts. -/
  | intro {e : Element} (tag : PlainTag e.name e.attributes) (text : Trimmed e.text.toList)
    (children : ∀ c ∈ e.children, Plain c) : Plain e

end EntityForge.Xml.Grammar
