import JavaBuild.Text.Digit
import JavaBuild.Xml.Encoding
import JavaBuild.Xml.NameChar

/-!
# Markup

Scanning the markup of a document's content: tags, references, comments,
processing instructions and CDATA sections. A scanner takes the characters from
a place on and gives what it has read with the characters after it.

A place is told by the number of characters left from there. A scanner that
reaches the end of the document does not know where its token starts: it fails
with `unfinished` or `cutOff`, and whoever started the token puts the place in
(`ScanFault.locate`).
-/

namespace JavaBuild.Xml

/-- Why scanning fails. -/
inductive ScanFault where
  /-- There is a fault, this many characters before the end. -/
  | found (fault : XmlFault) (left : Nat)
  /-- The document ends within the token. -/
  | unfinished
  /-- The document ends within a character of the token. -/
  | cutOff
  deriving DecidableEq, Repr

/-- The fault and its place, for a token that starts this many characters before the end. -/
def ScanFault.locate (start : Nat) : ScanFault → XmlFault × Nat
  | found fault left => (fault, left)
  | unfinished => (.unclosedToken, start)
  | cutOff => (.partialCharacter, start)

/-- The failure of a scanner that needs a further character at the end. -/
def atEnd : Ending → ScanFault
  | .complete | .halfUnit => .unfinished
  | .truncated => .cutOff
  | .malformed => .found .invalidToken 0

/-- The failure at a character that may not stand there. -/
def invalidAt (cs : List Char) : ScanFault := .found .invalidToken cs.length

/-- The failure of a scanner that finds neither of the characters it needs. -/
def unexpected (e : Ending) : List Char → ScanFault
  | [] => atEnd e
  | cs => invalidAt cs

variable (e : Ending)

/-- A name without colon. -/
def scanName : List Char → Except ScanFault (List Char × List Char)
  | [] => .error (atEnd e)
  | c :: cs =>
    if isNameStart c then .ok (c :: cs.takeWhile isNameChar, cs.dropWhile isNameChar)
    else .error (invalidAt (c :: cs))

/-- A name, or two that a colon joins. -/
def scanQualified (cs : List Char) : Except ScanFault (List Char × List Char) := do
  let (first, rest) ← scanName e cs
  match rest with
  | ':' :: rest => do
    let (second, rest) ← scanName e rest
    return (first ++ ':' :: second, rest)
  | _ => return (first, rest)

/-! ## References -/

/-- What a reference refers to. -/
inductive Reference where
  | entity (name : List Char)
  /-- A character by its number, unless there is none of that number. -/
  | character (c : Option Char)
  deriving DecidableEq, Repr

/-- Whether a character is a digit of a base that is ten or sixteen. -/
def isDigitOf (base : Nat) (c : Char) : Bool :=
  (Text.hexValue? c).any (· < base)

/-- The character whose number has these digits, if a document may hold it. -/
def numberedChar? (base : Nat) (digits : List Char) : Option Char :=
  let n := digits.foldl (fun n c => min (base * n + (Text.hexValue? c).getD 0) 0x110000) 0
  if h : n.isValidChar then
    let c := Char.ofNatAux n h
    if isXmlChar c then some c else none
  else none

/-- The digits of a character reference up to the semicolon. -/
def scanNumber (base : Nat) (cs : List Char) : Except ScanFault (Reference × List Char) :=
  let digits := cs.takeWhile (isDigitOf base)
  match digits, cs.dropWhile (isDigitOf base) with
  | [], rest => .error (unexpected e rest)
  | digits, ';' :: rest => .ok (.character (numberedChar? base digits), rest)
  | _, rest => .error (unexpected e rest)

/-- A reference, after its `&`. -/
def scanReference : List Char → Except ScanFault (Reference × List Char)
  | '#' :: 'x' :: cs => scanNumber e 16 cs
  | '#' :: cs => scanNumber e 10 cs
  | cs => do
    let (name, rest) ← scanName e cs
    match rest with
    | ';' :: rest => return (.entity name, rest)
    | rest => throw (unexpected e rest)

/-! ## Tags -/

/-- An attribute as it is written. -/
structure RawAttribute where
  name : List Char
  /-- The place of the name. -/
  nameLeft : Nat
  value : List Char
  /-- The place after the value. -/
  valueLeft : Nat
  deriving DecidableEq, Repr

/-- A start tag as it is written. -/
structure RawTag where
  name : List Char
  attributes : List RawAttribute
  /-- Whether the tag is that of an empty element. -/
  closed : Bool
  deriving DecidableEq, Repr

/-- The characters up to the closing quote of an attribute value. References
    have to be complete; their characters belong to the value as they are. -/
def scanValue (quote : Char) : List Char → Except ScanFault (List Char × List Char)
  | [] => .error (atEnd e)
  | c :: cs =>
    if c = quote then .ok ([], cs)
    else if c = '<' ∨ ¬isXmlChar c then .error (invalidAt (c :: cs))
    else do
      if c = '&' then let _ ← scanReference e cs
      let (value, rest) ← scanValue quote cs
      return (c :: value, rest)

/-- An attribute. -/
def scanAttribute (cs : List Char) : Except ScanFault (RawAttribute × List Char) := do
  let (name, rest) ← scanQualified e cs
  match rest.dropWhile isXmlSpace with
  | '=' :: rest =>
    match rest.dropWhile isXmlSpace with
    | quote :: rest =>
      if quote = '"' ∨ quote = '\'' then
        let (value, after) ← scanValue e quote rest
        return (⟨name, cs.length, value, rest.length - value.length⟩, after)
      else throw (invalidAt (quote :: rest))
    | [] => throw (atEnd e)
  | rest => throw (unexpected e rest)

/-- The end of a start tag: whether it closes the element. -/
def scanTagEnd : List Char → Except ScanFault (Bool × List Char)
  | '>' :: rest => .ok (false, rest)
  | '/' :: '>' :: rest => .ok (true, rest)
  | '/' :: rest => .error (unexpected e rest)
  | rest => .error (unexpected e rest)

/-- The attributes and the end of a start tag. Blanks stand before each
    attribute. An attribute takes a character at least, which bounds the number. -/
def scanAttributes : (budget : Nat) → List Char →
    Except ScanFault ((List RawAttribute × Bool) × List Char)
  | 0, _ => .error .unfinished
  | n + 1, cs =>
    match cs.dropWhile isXmlSpace with
    | [] => .error (atEnd e)
    | c :: rest =>
      if c = '>' ∨ c = '/' then do
        let (closed, rest) ← scanTagEnd e (c :: rest)
        return (([], closed), rest)
      else if cs.head?.any isXmlSpace then do
        let (a, rest) ← scanAttribute e (c :: rest)
        let ((as, closed), rest) ← scanAttributes n rest
        return ((a :: as, closed), rest)
      else throw (invalidAt (c :: rest))

/-- A start tag, after its `<`. -/
def scanStartTag (cs : List Char) : Except ScanFault (RawTag × List Char) := do
  let (name, rest) ← scanQualified e cs
  let ((attributes, closed), rest) ← scanAttributes e (rest.length + 1) rest
  return (⟨name, attributes, closed⟩, rest)

/-- The name of an end tag, in which colons may stand anywhere after the first
    character. -/
def isEndNameChar (c : Char) : Bool := isNameChar c || c == ':'

/-- An end tag, after its `</`. -/
def scanEndTag : List Char → Except ScanFault (List Char × List Char)
  | [] => .error (atEnd e)
  | c :: cs =>
    if isNameStart c then
      let name := c :: cs.takeWhile isEndNameChar
      match (cs.dropWhile isEndNameChar).dropWhile isXmlSpace with
      | '>' :: rest => .ok (name, rest)
      | rest => .error (unexpected e rest)
    else .error (invalidAt (c :: cs))

/-! ## What is passed over -/

/-- A comment after its first two hyphens. -/
def scanCommentBody : List Char → Except ScanFault (List Char)
  | [] => .error (atEnd e)
  | ['-'] => .error (atEnd e)
  | ['-', '-'] => .error (atEnd e)
  | '-' :: '-' :: '>' :: rest => .ok rest
  | '-' :: '-' :: rest => .error (invalidAt rest)
  | c :: cs => if isXmlChar c then scanCommentBody cs else .error (invalidAt (c :: cs))

/-- A comment, after `<!-`. -/
def scanComment : List Char → Except ScanFault (List Char)
  | '-' :: cs => scanCommentBody e cs
  | cs => .error (unexpected e cs)

/-- A processing instruction after its target. -/
def scanInstructionBody : List Char → Except ScanFault (List Char)
  | [] => .error (atEnd e)
  | ['?'] => .error (atEnd e)
  | '?' :: '>' :: rest => .ok rest
  | c :: cs => if isXmlChar c then scanInstructionBody cs else .error (invalidAt (c :: cs))

/-- A processing instruction, after its `<?`, and whether it is an XML declaration. -/
def scanInstruction (cs : List Char) : Except ScanFault (Bool × List Char) := do
  let (target, rest) ← scanName e cs
  let isXml := target.map Char.toLower == ['x', 'm', 'l']
  let next := rest.head?.any fun c => isXmlSpace c || c == '?'
  if !next then throw (unexpected e rest)
  else if isXml && target != ['x', 'm', 'l'] then throw (invalidAt rest)
  else match rest with
    | '?' :: '>' :: rest => return (isXml, rest)
    | '?' :: rest => throw (unexpected e rest)
    | _ => return (isXml, ← scanInstructionBody e rest)

/-! ## CDATA sections -/

/-- The text of a CDATA section, after its opening, to its end. -/
def scanCdata : List Char → Except ScanFault (List Char × List Char)
  | [] => .error <| match e with
    | .complete | .halfUnit => .found .unclosedCdata 0
    | .truncated => .found .partialCharacter 0
    | .malformed => .found .invalidToken 0
  | ']' :: ']' :: '>' :: rest => .ok ([], rest)
  | '\r' :: '\n' :: cs => do
    let (text, rest) ← scanCdata cs
    return ('\n' :: text, rest)
  | c :: cs =>
    if !e.hasMore && (c :: cs == [']'] || c :: cs == [']', ']'] || c :: cs == ['\r']) then
      .error (.found .unclosedCdata (cs.length + 1))
    else if isXmlChar c then do
      let (text, rest) ← scanCdata cs
      return ((if c = '\r' then '\n' else c) :: text, rest)
    else .error (invalidAt (c :: cs))

/-- The rest of the word that opens a CDATA section. -/
def scanCdataOpening : (word : List Char) → List Char → Except ScanFault (List Char)
  | [], cs => .ok cs
  | w :: word, c :: cs =>
    if c = w then scanCdataOpening word cs else .error (invalidAt (c :: cs))
  | _ :: _, [] => .error (atEnd e)

/-- A CDATA section, after `<![`. The opening word is looked at only if all of its
    characters are there. -/
def scanCdataSection (cs : List Char) : Except ScanFault (List Char × List Char) := do
  if cs.length < 6 ∧ ¬e.hasMore then throw .unfinished
  scanCdata e (← scanCdataOpening e "CDATA[".toList cs)

/-! ## Content -/

/-- A piece of the content of an element. -/
inductive ContentToken where
  | data (text : List Char)
  | reference (r : Reference)
  | startTag (tag : RawTag)
  /-- An end tag, with the place of its name. -/
  | endTag (name : List Char) (nameLeft : Nat)
  /-- A comment or a processing instruction. -/
  | passed
  /-- An XML declaration, which may not stand in content. -/
  | declaration
  deriving DecidableEq, Repr

/-- A run of text within a line. -/
def scanData : List Char → Except ScanFault (List Char × List Char)
  | [] => .ok ([], [])
  | ']' :: ']' :: '>' :: rest => .error (invalidAt ('>' :: rest))
  | c :: cs =>
    if c = '<' ∨ c = '&' ∨ c = '\r' ∨ c = '\n' ∨ ¬isXmlChar c then .ok ([], c :: cs)
    else do
      let (text, rest) ← scanData cs
      return (c :: text, rest)

/-- What follows a `<`. -/
def scanMarkup : List Char → Except ScanFault (ContentToken × List Char)
  | '!' :: '-' :: cs => return (.passed, ← scanComment e cs)
  | '!' :: '[' :: cs => do
    let (text, rest) ← scanCdataSection e cs
    return (.data text, rest)
  | '!' :: cs => .error (unexpected e cs)
  | '?' :: cs => do
    let (isDeclaration, rest) ← scanInstruction e cs
    return (if isDeclaration then .declaration else .passed, rest)
  | '/' :: cs => do
    let (name, rest) ← scanEndTag e cs
    return (.endTag name cs.length, rest)
  | cs => do
    let (tag, rest) ← scanStartTag e cs
    return (.startTag tag, rest)

/-- The next piece of content. -/
def scanContent : List Char → Except ScanFault (ContentToken × List Char)
  | [] => .error (atEnd e)
  | '<' :: cs => scanMarkup e cs
  | '&' :: cs => do
    let (r, rest) ← scanReference e cs
    return (.reference r, rest)
  | '\r' :: '\n' :: rest => .ok (.data ['\n'], rest)
  | '\r' :: rest => .ok (.data ['\n'], rest)
  | '\n' :: rest => .ok (.data ['\n'], rest)
  | cs =>
    if cs.head?.any isXmlChar then do
      let (text, rest) ← scanData cs
      return (.data text, rest)
    else .error (invalidAt cs)

end JavaBuild.Xml
