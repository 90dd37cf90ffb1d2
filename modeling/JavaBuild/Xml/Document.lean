import JavaBuild.Xml.Prolog.Declaration
import JavaBuild.Xml.Prolog.Doctype

/-!
# Documents

A document is read from its bytes (`readDocument`): the encoding is found out, an
XML declaration may name another one, a prolog may declare entities, and then
there is one root element, after which only comments and processing instructions
may stand. The result is the root, or the first fault with its position.
-/

namespace JavaBuild.Xml

/-- A document's prolog has been read up to the root's tag. -/
structure BeforeRoot where
  doctype : Doctype
  /-- The characters from the root's `<` on. -/
  rest : List Char

/-- Read a prolog up to the root's tag. There may be one document type declaration. -/
def readProlog (e : Ending) : (budget : Nat) → (typed : Bool) → Declarations → List Char →
    Except PlacedFault BeforeRoot
  | 0, _, _, cs => .error (.noElement, cs.length)
  | n + 1, typed, d, cs => do
    match ← nextToken e cs with
    | none => throw (.noElement, 0)
    | some ⟨.instruction, _, rest⟩ => readProlog e n typed d rest
    | some ⟨.comment, _, rest⟩ => readProlog e n typed d rest
    | some ⟨.root, left, _⟩ => return ⟨d.doctype, cs.drop (cs.length - left)⟩
    | some ⟨.opening keyword, left, rest⟩ =>
      if typed ∨ keyword ≠ "DOCTYPE".toList then throw (.syntaxError, left)
      let (d, rest) ← TokenReader.doctype e d rest
      readProlog e n true d rest
    | some ⟨token, left, _⟩ => throw (token.fault, left)

/-- Check what follows the root. -/
def checkEpilog (e : Ending) : (budget : Nat) → List Char → Except PlacedFault Unit
  | 0, _ => .ok ()
  | n + 1, cs => do
    match ← nextToken e cs with
    | none => return
    | some ⟨.instruction, _, rest⟩ => checkEpilog e n rest
    | some ⟨.comment, _, rest⟩ => checkEpilog e n rest
    | some ⟨_, left, _⟩ => throw (.junkAfterElement, left)

/-- Read the root, from its `<` on, and give the characters after it. -/
def readRoot (d : Doctype) (e : Ending) (cs : List Char) :
    Except PlacedFault (Element × List Char) := do
  match scanStartTag e cs.tail with
  | .error fault => throw (fault.locate cs.length)
  | .ok (tag, rest) =>
    match openTag d .initial tag with
    | .error (fault, place) => throw (fault, place.getD cs.length)
    | .ok (name, attributes, bindings) =>
      if tag.closed then return (⟨name, attributes, []⟩, rest)
      let content ← readRootContent d e bindings rest
      match content.ending with
      | .endOfText => throw (.noElement, 0)
      | .endTag closing nameLeft =>
        if closing ≠ tag.name then throw (.mismatchedTag, nameLeft)
        return (⟨name, attributes, content.nodes⟩, content.rest)

/-- Read a document from the characters after its XML declaration. -/
def readBody (e : Ending) (standalone : Bool) (cs : List Char) : Except PlacedFault Element := do
  let ⟨doctype, fromRoot⟩ ← readProlog e (cs.length + 1) false { standalone } cs
  let (root, rest) ← readRoot doctype e fromRoot
  checkEpilog e (rest.length + 1) rest
  return root

/-- The position of the place with so many characters left. -/
def positionOf (cs : List Char) (left : Nat) : Position :=
  Position.after {} (cs.take (cs.length - left))

/-- Tell the position of a fault. -/
def withPosition {α : Type} (cs : List Char) : Except PlacedFault α → Except XmlError α
  | .ok a => .ok a
  | .error (fault, left) => .error (.malformed fault (positionOf cs left))

/-- The characters without a byte order mark at the start. -/
def dropMark : List Char → List Char
  | c :: cs => if c = '\ufeff' then cs else c :: cs
  | [] => []

/-- The characters between `<?xml` and `?>`, and the number of characters left
    after them, if a document starts with an XML declaration. -/
def declarationText? (e : Ending) (cs : List Char) :
    Except PlacedFault (Option (List Char × Nat)) :=
  match cs with
  | '<' :: '?' :: inside =>
    match scanInstruction e inside with
    | .error fault => .error (fault.locate cs.length)
    | .ok (false, _) => .ok none
    | .ok (true, rest) =>
      .ok (some ((inside.drop 3).take (inside.length - rest.length - 5), rest.length + 2))
  | _ => .ok none

/-- Whether two encodings have units of the same size and order. -/
def Encoding.agrees : Encoding → Option Bool → Bool
  | utf16 bigEndian, some declared => bigEndian == declared
  | utf16 _, none => true
  | _, _ => false

/-- The encoding that a document is in, if it declares one of this name at a position and
    is detected to be in that one. A registered codec with a table of the characters of all
    bytes replaces whatever the first bytes show. -/
def declaredEncoding (detected : Encoding) (name : String) (position : Position) :
    Except XmlError Encoding :=
  match detected, Encoding.named name with
  | _, .other (.page first table) => .ok (.bytes (pageChar? first table))
  | _, .other .unlikeAscii => .error (.malformed .unknownEncoding position)
  | _, .other (.unreadable e) => .error (.encoding name e)
  | .utf16 bigEndian, .wide declared =>
    if (Encoding.utf16 bigEndian).agrees declared then .ok (.utf16 bigEndian)
    else .error (.malformed .wrongEncoding position)
  | .utf16 _, .narrow _ | _, .wide _ => .error (.malformed .wrongEncoding position)
  | _, .narrow encoding => .ok encoding

/-- How many characters in another encoding so many characters at the start are. They are
    a byte order mark, if there is one, and ASCII characters. -/
def charactersIn (detected encoding : Encoding) (cs : List Char) (n : Nat) : Nat :=
  match detected, encoding with
  | .utf16 _, .bytes _ => 2 * n
  | .utf8, .bytes _ => if cs.head? = some '\ufeff' then n + 2 else n
  | _, _ => n

/-- The characters of a document of which so many at the start have been read in another
    encoding. Each byte of those is one character, be it none of this encoding. -/
def Encoding.readAfter (encoding : Encoding) (n : Nat) (document : ByteArray) : Source :=
  match encoding with
  | bytes char? =>
    let rest := readBytes char? (document.toList.drop n)
    ⟨(document.toList.take n).map (Char.ofNat ·.toNat) ++ rest.chars, rest.ending⟩
  | _ => encoding.read document

/-- Read a document that is detected to be in an encoding. -/
def readDetected (detected : Encoding) (document : ByteArray) : Except XmlError Element := do
  let source := detected.read document
  let cs := source.chars
  match ← withPosition cs (declarationText? source.ending (dropMark cs)) with
  | none => withPosition cs (readBody source.ending false (dropMark cs))
  | some (text, left) =>
    match XmlDeclaration.read text with
    | .error place => throw (.malformed .malformedDeclaration (positionOf cs (left + place)))
    | .ok declaration =>
      match declaration.encoding with
      | none =>
        let body := cs.drop (cs.length + 2 - left)
        withPosition cs (readBody source.ending declaration.standalone body)
      | some (name, place) =>
        let encoding ← declaredEncoding detected name (positionOf cs (left + place))
        let before := charactersIn detected encoding cs (cs.length + 2 - left)
        let again := encoding.readAfter before document
        withPosition again.chars <|
          readBody again.ending declaration.standalone (again.chars.drop before)

/-- Read a document. -/
def readDocument (document : ByteArray) : Except XmlError Element :=
  match detect (document.toList.take 3) with
  | none => .error (.malformed .unclosedToken {})
  | some encoding => readDetected encoding document

end JavaBuild.Xml
