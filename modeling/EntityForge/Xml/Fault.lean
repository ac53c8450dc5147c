/-!
# Faults of an XML text

Every way in which a text can fail to be a document: in its markup, in the attributes of a tag, in a
reference, or by ending too early. Each fault has one wording.
-/

namespace EntityForge.Xml

/-- What is wrong with a character reference. -/
inductive CharRefFault
  /-- The number carries a sign. -/
  | signed
  /-- There is no digit. -/
  | empty
  /-- A character is no digit of the base. -/
  | badDigit
  /-- The number does not fit in 32 bits. -/
  | overflow
  /-- The number is zero. -/
  | zero
  /-- The number is not that of a character. -/
  | notChar (value : Nat)
  deriving DecidableEq, Repr

/-- The wording of a fault of a character reference. -/
def CharRefFault.message : CharRefFault → String
  | signed => "unexpected number sign"
  | empty => "cannot parse integer from empty string"
  | badDigit => "invalid digit found in string"
  | overflow => "number too large to fit in target type"
  | zero => "0x0 character is not permitted in XML"
  | notChar value => s!"`{value}` is not a valid codepoint"

/-- What is wrong with a text that is no document. -/
inductive Fault
  /-- A reference lacks its semicolon. -/
  | unclosedReference
  /-- A tag lacks its closing angle bracket. -/
  | unclosedTag
  /-- Something else than a comment, a CDATA section or a document type follows `<!`. -/
  | unknownMarkup
  /-- A comment lacks its end. -/
  | unclosedComment
  /-- A CDATA section lacks its end. -/
  | unclosedCData
  /-- A document type lacks its end. -/
  | unclosedDoctype
  /-- A processing instruction or declaration lacks its end. -/
  | unclosedInstruction
  /-- A document type has no name. -/
  | namelessDoctype
  /-- A closing tag does not bear the name of the open element. -/
  | mismatchedClose (expected found : String)
  /-- A closing tag stands where no element is open. -/
  | unopenedClose (found : String)
  /-- An attribute key is followed by neither an equals sign nor a blank. -/
  | keyWithoutEquals (position : Nat)
  /-- An attribute key occurs twice in a tag. -/
  | duplicateKey (position previous : Nat)
  /-- An equals sign is followed by no value. -/
  | missingValue (position : Nat)
  /-- An attribute value is not quoted. -/
  | unquotedValue (position : Nat)
  /-- An attribute value lacks its closing quote. -/
  | unclosedQuote (position : Nat) (quote : Char)
  /-- A reference in an attribute value lacks its semicolon. -/
  | unclosedValueReference (start stop : Nat)
  /-- A reference in an attribute value names an unknown entity. -/
  | unknownValueEntity (start stop : Nat) (name : String)
  /-- A character reference is invalid. -/
  | charRef (fault : CharRefFault)
  /-- A reference in text names an unknown entity. -/
  | unknownEntity (name : String)
  /-- The text ends inside an element. -/
  | endInside (name : String)
  deriving DecidableEq, Repr

/-- The wording of a fault. -/
def Fault.message : Fault → String
  | unclosedReference =>
    "ill-formed document: entity or character reference not closed: " ++
      "`;` not found before end of input"
  | unclosedTag => "syntax error: tag not closed: `>` not found before end of input"
  | unknownMarkup => "syntax error: unknown or missed symbol in markup"
  | unclosedComment => "syntax error: comment not closed: `-->` not found before end of input"
  | unclosedCData => "syntax error: CDATA not closed: `]]>` not found before end of input"
  | unclosedDoctype => "syntax error: DOCTYPE not closed: `>` not found before end of input"
  | unclosedInstruction =>
    "syntax error: processing instruction or xml declaration not closed: " ++
      "`?>` not found before end of input"
  | namelessDoctype =>
    "ill-formed document: `<!DOCTYPE>` declaration does not contain a name of a document type"
  | mismatchedClose expected found =>
    s!"ill-formed document: expected `</{expected}>`, but `</{found}>` was found"
  | unopenedClose found =>
    s!"ill-formed document: close tag `</{found}>` does not match any open tag"
  | keyWithoutEquals position =>
    s!"position {position}: attribute key must be directly followed by `=` or space"
  | duplicateKey position previous =>
    s!"position {position}: duplicated attribute, previous declaration at position {previous}"
  | missingValue position => s!"position {position}: `=` must be followed by an attribute value"
  | unquotedValue position =>
    s!"position {position}: attribute value must be enclosed in `\"` or `'`"
  | unclosedQuote position quote =>
    s!"position {position}: missing closing quote `{quote}` in attribute value"
  | unclosedValueReference start stop =>
    s!"Error while escaping character at range {start}..{stop}: Cannot find ';' after '&'"
  | unknownValueEntity start stop name => s!"at {start}..{stop}: unrecognized entity `{name}`"
  | charRef fault => s!"invalid character reference: {fault.message}"
  | unknownEntity name => s!"unknown entity &{name};"
  | endInside name => s!"unexpected end of document inside <{name}>"

end EntityForge.Xml
