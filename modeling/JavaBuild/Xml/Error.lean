/-!
# Errors of XML documents

A document that is not well formed is told by the first fault in it
(`XmlFault`) and where that is: its line, counted from one, and its column,
counted from zero in characters (`Position`). That the bytes in an encoding cannot be
told (`EncodingError`) is no fault of the document.
-/

namespace JavaBuild.Xml

/-- What is wrong with a document. -/
inductive XmlFault where
  | syntaxError
  | noElement
  | invalidToken
  | unclosedToken
  | partialCharacter
  | mismatchedTag
  | duplicateAttribute
  | junkAfterElement
  | parameterReference
  | undefinedEntity
  | recursiveEntity
  | asynchronousEntity
  | badCharacterNumber
  | binaryEntity
  | externalInAttribute
  | misplacedDeclaration
  | wrongEncoding
  | unknownEncoding
  | unclosedCdata
  | unboundPrefix
  | undeclaredPrefix
  | malformedDeclaration
  | badPublicId
  | reservedXmlPrefix
  | reservedXmlnsPrefix
  | reservedNamespace
  /-- A reference to an entity that a part of the document outside the file may declare. -/
  | skippedEntity (name : String)
  deriving DecidableEq, Repr

/-- What is wrong, in words. -/
def XmlFault.text : XmlFault → String
  | syntaxError => "syntax error"
  | noElement => "no element found"
  | invalidToken => "not well-formed (invalid token)"
  | unclosedToken => "unclosed token"
  | partialCharacter => "partial character"
  | mismatchedTag => "mismatched tag"
  | duplicateAttribute => "duplicate attribute"
  | junkAfterElement => "junk after document element"
  | parameterReference => "illegal parameter entity reference"
  | undefinedEntity => "undefined entity"
  | recursiveEntity => "recursive entity reference"
  | asynchronousEntity => "asynchronous entity"
  | badCharacterNumber => "reference to invalid character number"
  | binaryEntity => "reference to binary entity"
  | externalInAttribute => "reference to external entity in attribute"
  | misplacedDeclaration => "XML or text declaration not at start of entity"
  | wrongEncoding => "encoding specified in XML declaration is incorrect"
  | unknownEncoding => "unknown encoding"
  | unclosedCdata => "unclosed CDATA section"
  | unboundPrefix => "unbound prefix"
  | undeclaredPrefix => "must not undeclare prefix"
  | malformedDeclaration => "XML declaration not well-formed"
  | badPublicId => "illegal character(s) in public id"
  | reservedXmlPrefix =>
    "reserved prefix (xml) must not be undeclared or bound to another namespace name"
  | reservedXmlnsPrefix => "reserved prefix (xmlns) must not be declared or undeclared"
  | reservedNamespace => "prefix must not be bound to one of the reserved namespace names"
  | skippedEntity name => s!"undefined entity &{name};"

/-- A place in a document. -/
structure Position where
  /-- The line, counted from one. -/
  line : Nat := 1
  /-- The column, counted from zero. -/
  column : Nat := 0
  deriving DecidableEq, Repr

/-- The place after these characters. A carriage return and a line feed after it
    end one line. -/
def Position.after : Position → List Char → Position
  | p, [] => p
  | p, '\r' :: '\n' :: cs => after ⟨p.line + 1, 0⟩ cs
  | p, '\r' :: cs => after ⟨p.line + 1, 0⟩ cs
  | p, '\n' :: cs => after ⟨p.line + 1, 0⟩ cs
  | p, _ :: cs => after ⟨p.line, p.column + 1⟩ cs

/-- Why the characters of the bytes in an encoding cannot be told. -/
inductive EncodingError where
  | unknown
  /-- There are several bytes for a character. -/
  | multiByte
  /-- It is an encoding of bytes, not of characters. -/
  | notText
  /-- Its codec reads the bytes as ASCII, which they are not. -/
  | undecodable
  /-- Its codec fails for this cause, whatever the bytes are. -/
  | failing (cause : String)
  deriving DecidableEq, Repr

/-- The message about the encoding of a name. -/
def EncodingError.message (name : String) : EncodingError → String
  | unknown => s!"unknown encoding: {name}"
  | multiByte => "multi-byte encodings are not supported"
  | notText =>
    s!"'{name}' is not a text encoding; use codecs.decode() to handle arbitrary codecs"
  | undecodable =>
    "'ascii' codec can't decode byte 0x80 in position 82: ordinal not in range(128)"
  | failing cause => s!"decoding with '{name}' codec failed (UnicodeError: {cause})"

/-- Why a document cannot be read. -/
inductive XmlError where
  | malformed (fault : XmlFault) (position : Position)
  /-- It names an encoding that cannot be read. -/
  | encoding (name : String) (e : EncodingError)
  deriving DecidableEq, Repr

/-- The message for a fault at a position. -/
def faultMessage (fault : XmlFault) (position : Position) : String :=
  s!"{fault.text}: line {position.line}, column {position.column}"

end JavaBuild.Xml
