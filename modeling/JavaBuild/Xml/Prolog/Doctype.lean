import JavaBuild.Xml.Prolog.Token

/-!
# Document type declarations

Reading what follows `<!DOCTYPE`: a name, the place of declarations outside the
document, and the declarations in brackets. Of these, declarations of entities
and of attributes count (`Doctype`); the others are only checked.

Declarations outside the document are not read. If there may be any, references
to unknown entities are no fault of the document, and what is declared after a
reference to an entity of declarations does not count.
-/

namespace JavaBuild.Xml

/-- What has been declared so far. -/
structure Declarations where
  doctype : Doctype := {}
  /-- Whether the document says that it stands alone. -/
  standalone : Bool := false
  /-- Whether further declarations count. -/
  counting : Bool := true

namespace Declarations

/-- There may be declarations outside the document. -/
def incomplete (d : Declarations) : Declarations :=
  { d with doctype.entities.incomplete := !d.standalone }

/-- Declare an entity. -/
def declareEntity (d : Declarations) (name : List Char) (entity : Entity) : Declarations :=
  if d.counting then { d with doctype.entities := d.doctype.entities.declare name entity } else d

/-- Declare an attribute. -/
def declareAttribute (d : Declarations) (rule : AttributeRule) : Declarations :=
  if d.counting then { d with doctype := d.doctype.addRule rule } else d

end Declarations

/-- Reading tokens: the state is the characters left. -/
abbrev TokenReader := StateT (List Char) (Except PlacedFault)

/-- The fault of a token that may not stand where it does. -/
def PrologToken.fault : PrologToken → XmlFault
  | parameter => .parameterReference
  | declaration => .misplacedDeclaration
  | _ => .syntaxError

namespace TokenReader

variable (e : Ending)

/-- The next token with its place. -/
def next : TokenReader (PrologToken × Nat) := fun cs => do
  match ← nextToken e cs with
  | none => throw (.noElement, 0)
  | some ⟨token, left, rest⟩ => return ((token, left), rest)

/-- Refuse a token. -/
def refuse {α : Type} (found : PrologToken × Nat) : TokenReader α :=
  throw (found.1.fault, found.2)

/-- A certain token. -/
def expect (token : PrologToken) : TokenReader Unit := do
  let found ← next e
  if found.1 ≠ token then refuse found

/-- A name without colon. -/
def simpleName : TokenReader (List Char) := do
  match ← next e with
  | (.word .name text, _) => return text
  | found => refuse found

/-- A name. -/
def anyName : TokenReader (List Char) := do
  match ← next e with
  | (.word .name text, _) => return text
  | (.word .qualified text, _) => return text
  | found => refuse found

/-- A literal, and how many characters are left after its text. -/
def literal : TokenReader (List Char × Nat) := do
  match ← next e with
  | (.literal text, left) => return (text, left - 1 - text.length)
  | found => refuse found

/-! ## Places outside the document -/

/-- Whether a character may stand in a public identifier. -/
def isPublicIdChar (c : Char) : Bool :=
  c.isAlphanum || " \r\n-'()+,./:=?;!*#@$_%".toList.contains c

/-- A literal that is a public identifier. -/
def publicId : TokenReader Unit := do
  let (text, left) ← literal e
  match text.dropWhile isPublicIdChar with
  | [] => return
  | bad => throw (.badPublicId, left + bad.length)

/-- The literals after a keyword that starts a place outside the document. -/
def externalPlace (keyword : List Char) (found : PrologToken × Nat) : TokenReader Unit := do
  if keyword = "SYSTEM".toList then
    let _ ← literal e
  else if keyword = "PUBLIC".toList then
    publicId e
    let _ ← literal e
  else refuse found

/-! ## Entities -/

/-- The text that the value of an entity stands for: numbered characters are
    replaced, references to entities stay. While `passing`, the characters up to a
    semicolon belong to a reference that has been replaced. A fault has its distance
    from the end. -/
def entityText : (passing : Bool) → List Char → Except (XmlFault × Nat) (List Char)
  | _, [] => .ok []
  | true, c :: cs => entityText (c != ';') cs
  | false, '\r' :: '\n' :: cs => (entityText false cs).map ('\n' :: ·)
  | false, '\r' :: cs => (entityText false cs).map ('\n' :: ·)
  | false, '%' :: cs => .error <| match scanPercent .complete cs with
    | .ok (.parameter, _) => (.parameterReference, cs.length + 1)
    | .ok _ => (.invalidToken, cs.length)
    | .error (.found fault left) => (fault, left)
    | .error _ => (.invalidToken, cs.length + 1)
  | false, c :: cs =>
    if c = '&' then
      match scanReference .complete cs with
      | .error (.found fault left) => .error (fault, left)
      | .error _ => .error (.invalidToken, cs.length + 1)
      | .ok (.character none, _) => .error (.badCharacterNumber, cs.length + 1)
      | .ok (.character (some d), _) => (entityText true cs).map (d :: ·)
      | .ok (.entity _, _) => (entityText false cs).map ('&' :: ·)
    else (entityText false cs).map (c :: ·)

/-- The value of an entity. -/
def entityValue (d : Declarations) (text : List Char) (left : Nat) : TokenReader (List Char) :=
  if d.counting then
    match entityText false text with
    | .ok value => return value
    | .error (fault, place) => throw (fault, left + place)
  else return text

/-- A declaration of an entity. -/
def entityDeclaration (d : Declarations) : TokenReader Declarations := do
  match ← next e with
  | (.percent, _) =>
    let _ ← simpleName e
    match ← next e with
    | (.literal text, left) =>
      let _ ← entityValue d text (left - 1 - text.length)
    | (.word .name keyword, left) => externalPlace e keyword (.word .name keyword, left)
    | found => refuse found
    expect e .closing
    return d
  | (.word .name name, _) =>
    match ← next e with
    | (.literal text, left) =>
      let value ← entityValue d text (left - 1 - text.length)
      expect e .closing
      return d.declareEntity name (.internal value)
    | (.word .name keyword, left) =>
      externalPlace e keyword (.word .name keyword, left)
      match ← next e with
      | (.closing, _) => return d.declareEntity name .external
      | (.word .name word, left) =>
        if word ≠ "NDATA".toList then refuse (.word .name word, left)
        let _ ← simpleName e
        expect e .closing
        return d.declareEntity name .unparsed
      | found => refuse found
    | found => refuse found
  | found => refuse found

/-! ## Attributes -/

/-- The rest of a list of alternatives in parentheses. -/
def alternatives (one : TokenReader Unit) : (budget : Nat) → TokenReader Unit
  | 0 => return
  | n + 1 => do
    one
    match ← next e with
    | (.closeParen none, _) => return
    | (.bar, _) => alternatives one n
    | found => refuse found

/-- The types of attributes that a keyword names, other than `CDATA`. -/
def attributeTypes : List (List Char) :=
  ["ID", "IDREF", "IDREFS", "ENTITY", "ENTITIES", "NMTOKEN", "NMTOKENS"].map String.toList

/-- A value that an attribute may have. -/
def attributeAlternative : TokenReader Unit := do
  match ← next e with
  | (.word _ _, _) => return
  | found => refuse found

/-- The type of an attribute: whether all blanks of its value count. -/
def attributeType : TokenReader Bool := do
  let budget := (← get).length
  match ← next e with
  | (.openParen, _) =>
    alternatives e (attributeAlternative e) budget
    return false
  | (.word .name keyword, left) =>
    if keyword = "CDATA".toList then return true
    else if attributeTypes.contains keyword then return false
    else if keyword = "NOTATION".toList then
      expect e .openParen
      alternatives e (do let _ ← simpleName e) budget
      return false
    else refuse (.word .name keyword, left)
  | found => refuse found

/-- The value that a missing attribute gets. -/
def fallbackValue (d : Declarations) (blanksCount : Bool) (text : List Char) (left : Nat) :
    TokenReader (List Char) :=
  if d.counting then
    match attributeText d.doctype.entities blanksCount text with
    | .ok value => return value
    | .error (fault, place) => throw (fault, left + place.getD (text.length + 1))
  else return text

/-- What a declaration says about a missing attribute. -/
def attributeFallback (d : Declarations) (blanksCount : Bool) :
    TokenReader (Option (List Char)) := do
  match ← next e with
  | (.literal text, left) =>
    return some (← fallbackValue d blanksCount text (left - 1 - text.length))
  | (.hashed name, left) =>
    if name = "IMPLIED".toList ∨ name = "REQUIRED".toList then return none
    else if name = "FIXED".toList then
      let (text, left) ← literal e
      return some (← fallbackValue d blanksCount text left)
    else refuse (.hashed name, left)
  | found => refuse found

/-- The declarations of the attributes of one element. -/
def attributeDeclarations (element : List Char) : (budget : Nat) → Declarations →
    TokenReader Declarations
  | 0, d => return d
  | n + 1, d => do
    match ← next e with
    | (.closing, _) => return d
    | (.word kind key, left) =>
      if kind = .other then refuse (.word kind key, left)
      let blanksCount ← attributeType e
      let fallback ← attributeFallback e d blanksCount
      attributeDeclarations element n (d.declareAttribute { element, key, blanksCount, fallback })
    | found => refuse found

/-! ## Elements and notations -/

/-- The rest of a group of the model of an element's content. `marks` has the mark
    between the parts of each open group, the innermost first. -/
def modelGroup : (budget : Nat) → (marks : List (Option PrologToken)) → TokenReader Unit
  | 0, _ => return
  | n + 1, marks => do
    match ← next e with
    | (.openParen, _) => modelGroup n (none :: marks)
    | (.word kind text, left) =>
      if kind = .other then refuse (.word kind text, left)
      afterPart n marks
    | (.repeated, _) => afterPart n marks
    | found => refuse found
where
  /-- What follows a part of a group. -/
  afterPart : (budget : Nat) → List (Option PrologToken) → TokenReader Unit
    | 0, _ => return
    | n + 1, marks => do
      let found ← next e
      match found.1, marks with
      | .closeParen _, [_] => return
      | .closeParen _, _ :: outer => afterPart n outer
      | .comma, mark :: outer =>
        if mark = some .bar then refuse found
        modelGroup n (some .comma :: outer)
      | .bar, mark :: outer =>
        if mark = some .comma then refuse found
        modelGroup n (some .bar :: outer)
      | _, _ => refuse found

/-- The elements that may be mixed with text. -/
def mixedModel : (budget : Nat) → (alone : Bool) → TokenReader Unit
  | 0, _ => return
  | n + 1, alone => do
    match ← next e with
    | (.closeParen (some '*'), _) => return
    | (.closeParen none, left) => if alone then return else refuse (.closeParen none, left)
    | (.bar, _) =>
      let _ ← anyName e
      mixedModel n false
    | found => refuse found

/-- A declaration of an element. -/
def elementDeclaration : TokenReader Unit := do
  let budget := (← get).length
  let _ ← anyName e
  match ← next e with
  | (.word .name keyword, left) =>
    if keyword ≠ "EMPTY".toList ∧ keyword ≠ "ANY".toList then refuse (.word .name keyword, left)
  | (.openParen, _) =>
    let before ← get
    match ← next e with
    | (.hashed name, left) =>
      if name ≠ "PCDATA".toList then refuse (.hashed name, left)
      mixedModel e budget true
    | _ =>
      set before
      modelGroup e budget [none]
  | found => refuse found
  expect e .closing

/-- A declaration of a notation. -/
def notationDeclaration : TokenReader Unit := do
  let _ ← simpleName e
  match ← next e with
  | (.word .name keyword, left) =>
    if keyword = "SYSTEM".toList then
      let _ ← literal e
      expect e .closing
    else if keyword = "PUBLIC".toList then
      publicId e
      match ← next e with
      | (.closing, _) => return
      | (.literal _, _) => expect e .closing
      | found => refuse found
    else refuse (.word .name keyword, left)
  | found => refuse found

/-! ## The whole -/

/-- The declarations in brackets, to the closing bracket. -/
def declarations : (budget : Nat) → Declarations → TokenReader Declarations
  | 0, d => return d
  | n + 1, d => do
    let found ← next e
    match found.1 with
    | .closeBracket => return d
    | .instruction | .comment => declarations n d
    | .parameter => declarations n { d.incomplete with counting := d.counting && d.standalone }
    | .opening keyword =>
      if keyword = "ENTITY".toList then declarations n (← entityDeclaration e d)
      else if keyword = "ATTLIST".toList then
        let budget := (← get).length
        let element ← anyName e
        declarations n (← attributeDeclarations e element budget d)
      else if keyword = "ELEMENT".toList then
        elementDeclaration e
        declarations n d
      else if keyword = "NOTATION".toList then
        notationDeclaration e
        declarations n d
      else refuse found
    | _ => refuse found

/-- The declarations in brackets, and the end of the whole. -/
def declarationsToEnd (d : Declarations) : TokenReader Declarations := do
  let d ← declarations e (← get).length d
  expect e .closing
  return d

/-- A document type declaration, after its keyword. -/
def doctype (d : Declarations) : TokenReader Declarations := do
  let _ ← anyName e
  match ← next e with
  | (.closing, _) => return d
  | (.openBracket, _) => declarationsToEnd e d
  | (.word .name keyword, left) =>
    externalPlace e keyword (.word .name keyword, left)
    match ← next e with
    | (.closing, _) => return d.incomplete
    | (.openBracket, _) => declarationsToEnd e d.incomplete
    | found => refuse found
  | found => refuse found

end TokenReader

end JavaBuild.Xml
