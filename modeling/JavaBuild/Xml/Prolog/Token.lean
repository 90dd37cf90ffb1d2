import JavaBuild.Xml.Content

/-!
# The tokens of a prolog

Before its root, a document has comments, processing instructions and a document
type declaration, which is made up of tokens: names, literals, and marks. White
space separates tokens (`nextToken`).
-/

namespace JavaBuild.Xml

/-- The kinds of words. -/
inductive WordKind where
  | name
  /-- Two names that a colon joins. -/
  | qualified
  /-- A word that is no name. -/
  | other
  deriving DecidableEq, Repr

/-- A token of a prolog. -/
inductive PrologToken where
  | instruction
  /-- An XML declaration. -/
  | declaration
  | comment
  /-- The start of a declaration with this keyword. -/
  | opening (keyword : List Char)
  | sectionOpening
  | sectionClosing
  | closing
  | word (kind : WordKind) (text : List Char)
  /-- A name with a mark of repetition. -/
  | repeated
  /-- A name after a number sign. -/
  | hashed (name : List Char)
  | literal (text : List Char)
  | percent
  | comma
  | bar
  | openParen
  /-- A closing parenthesis, with the mark of repetition after it. -/
  | closeParen (mark : Option Char)
  | openBracket
  | closeBracket
  /-- A reference to an entity of declarations. -/
  | parameter
  /-- The start of the root's tag. -/
  | root
  deriving DecidableEq, Repr

variable (e : Ending)

/-- The failure of a scanner that may stop at the end of the document. -/
def stopAtEnd (α : Type) (result : α) : Except ScanFault (α × List Char) :=
  match e with
  | .complete | .halfUnit => .ok (result, [])
  | .truncated => .error .cutOff
  | .malformed => .error (.found .invalidToken 0)

/-- Whether a word ends before a character. -/
def endsWord (c : Char) : Bool :=
  isXmlSpace c || ['>', ')', ',', '|', '[', '%'].contains c

/-- The rest of a word of this kind, with the kind that the whole word has. -/
def scanWordRest : WordKind → List Char → Except ScanFault (PrologToken × List Char)
  | kind, [] => stopAtEnd e _ (.word kind [])
  | .name, [':'] => .error (atEnd e)
  | .name, ':' :: c :: cs => do
    let kind := if isNameChar c then .qualified else .other
    grown ':' (← scanWordRest kind (c :: cs))
  | kind, c :: cs =>
    if isNameChar c then do grown c (← scanWordRest kind cs)
    else if endsWord c then .ok (.word kind [], c :: cs)
    else if c = ':' then do grown c (← scanWordRest .other cs)
    else if (c = '+' ∨ c = '*' ∨ c = '?') ∧ kind ≠ .other then .ok (.repeated, cs)
    else .error (invalidAt (c :: cs))
where
  /-- A character before a word. -/
  grown (c : Char) : PrologToken × List Char → Except ScanFault (PrologToken × List Char)
    | (.word kind text, rest) => .ok (.word kind (c :: text), rest)
    | found => .ok found

/-- A word. -/
def scanWord : List Char → Except ScanFault (PrologToken × List Char)
  | [] => .error (atEnd e)
  | c :: cs =>
    if isNameStart c then do scanWordRest.grown c (← scanWordRest e .name cs)
    else if isNameChar c || c == ':' then do scanWordRest.grown c (← scanWordRest e .other cs)
    else .error (invalidAt (c :: cs))

/-- The text of a literal, after its opening quote, and what must follow. -/
def scanLiteral (quote : Char) : List Char → Except ScanFault (List Char × List Char)
  | [] => .error (atEnd e)
  | c :: cs =>
    if c = quote then
      match cs with
      | [] => stopAtEnd e _ []
      | d :: rest =>
        if isXmlSpace d || ['>', '%', '['].contains d then .ok ([], d :: rest)
        else .error (invalidAt (d :: rest))
    else if isXmlChar c then do
      let (text, rest) ← scanLiteral quote cs
      return (c :: text, rest)
    else .error (invalidAt (c :: cs))

/-- Whether a character may stand in a keyword. -/
def isKeywordChar (c : Char) : Bool := c.isAlpha || c == '_'

/-- A keyword, after `<!`. -/
def scanKeyword (cs : List Char) : Except ScanFault (PrologToken × List Char) :=
  let keyword := cs.takeWhile isKeywordChar
  match cs.dropWhile isKeywordChar with
  | ['%'] => .error (atEnd e)
  | '%' :: c :: rest =>
    if isXmlSpace c || c == '%' then .error (invalidAt ('%' :: c :: rest))
    else .ok (.opening keyword, '%' :: c :: rest)
  | c :: rest =>
    if isXmlSpace c then .ok (.opening keyword, c :: rest) else .error (invalidAt (c :: rest))
  | [] => .error (atEnd e)

/-- What follows `<` in a prolog. -/
def scanPrologMarkup : List Char → Except ScanFault (PrologToken × List Char)
  | '!' :: '-' :: cs => return (.comment, ← scanComment e cs)
  | '!' :: '[' :: cs => .ok (.sectionOpening, cs)
  | '!' :: c :: cs =>
    if isKeywordChar c then scanKeyword e (c :: cs) else .error (invalidAt (c :: cs))
  | ['!'] => .error (atEnd e)
  | '?' :: cs => do
    let (isDeclaration, rest) ← scanInstruction e cs
    return (if isDeclaration then .declaration else .instruction, rest)
  | c :: cs => if isNameStart c then .ok (.root, c :: cs) else .error (invalidAt (c :: cs))
  | [] => .error (atEnd e)

/-- A reference to an entity of declarations, after `%`, or a percent sign by itself. -/
def scanPercent (cs : List Char) : Except ScanFault (PrologToken × List Char) :=
  match cs with
  | [] => .error (atEnd e)
  | c :: _ =>
    if isXmlSpace c || c == '%' then .ok (.percent, cs)
    else do
      let (_, rest) ← scanName e cs
      match rest with
      | ';' :: rest => return (.parameter, rest)
      | rest => throw (unexpected e rest)

/-- A name after a number sign. -/
def scanHashed (cs : List Char) : Except ScanFault (PrologToken × List Char) := do
  let (name, rest) ← scanName e cs
  match rest with
  | [] => stopAtEnd e _ (.hashed name)
  | c :: _ =>
    if isXmlSpace c || [')', '>', '%', '|'].contains c then return (.hashed name, rest)
    else throw (invalidAt rest)

/-- What follows a closing parenthesis. -/
def scanCloseParen : List Char → Except ScanFault (PrologToken × List Char)
  | [] => stopAtEnd e _ (.closeParen none)
  | c :: cs =>
    if c = '*' ∨ c = '?' ∨ c = '+' then .ok (.closeParen (some c), cs)
    else if isXmlSpace c || ['>', ',', '|', ')'].contains c then .ok (.closeParen none, c :: cs)
    else .error (invalidAt (c :: cs))

/-- The token that starts with the first character. -/
def scanToken : List Char → Except ScanFault (PrologToken × List Char)
  | [] => .error (atEnd e)
  | '<' :: cs => scanPrologMarkup e cs
  | '"' :: cs => do let (text, rest) ← scanLiteral e '"' cs; return (.literal text, rest)
  | '\'' :: cs => do let (text, rest) ← scanLiteral e '\'' cs; return (.literal text, rest)
  | '%' :: cs => scanPercent e cs
  | '#' :: cs => scanHashed e cs
  | ',' :: cs => .ok (.comma, cs)
  | '|' :: cs => .ok (.bar, cs)
  | '>' :: cs => .ok (.closing, cs)
  | '[' :: cs => .ok (.openBracket, cs)
  | [']', ']'] => .error (atEnd e)
  | ']' :: ']' :: '>' :: cs => .ok (.sectionClosing, cs)
  | ']' :: cs => .ok (.closeBracket, cs)
  | '(' :: cs => .ok (.openParen, cs)
  | ')' :: cs => scanCloseParen e cs
  | cs => scanWord e cs

/-- A token, the number of characters left at its start, and what follows it. -/
structure FoundToken where
  token : PrologToken
  left : Nat
  rest : List Char

/-- The next token, if there is one, after white space. -/
def nextToken (cs : List Char) : Except PlacedFault (Option FoundToken) :=
  let cs := cs.dropWhile isXmlSpace
  if cs.isEmpty ∧ e = .complete then .ok none
  else match scanToken e cs with
    | .ok (token, rest) => .ok (some ⟨token, cs.length, rest⟩)
    | .error fault => .error (fault.locate cs.length)

end JavaBuild.Xml
