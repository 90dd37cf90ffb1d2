import JavaBuild.Toml.Error
import JavaBuild.Text.Digit

/-!
# Texts and keys of TOML

Comments, the four kinds of quoted text, and keys. Each reader takes the
characters from a place on and gives what it has read with the characters after
it.
-/

namespace JavaBuild.Toml

/-- Whether a character is white space within a line. -/
def isSpace (c : Char) : Bool := c == ' ' || c == '\t'

/-- Whether a character is white space. -/
def isSpaceOrNewline (c : Char) : Bool := isSpace c || c == '\n'

/-- Whether a character may not stand in a comment or a text of one line. -/
def isForbidden (c : Char) : Bool :=
  (c.toNat < 32 && c != '\t') || c.toNat == 127

/-- Whether a character may not stand in a text of several lines. -/
def isForbiddenInLines (c : Char) : Bool := isForbidden c && c != '\n'

/-- Skip white space within a line. -/
def skipSpace (cs : List Char) : List Char := cs.dropWhile isSpace

/-- Refuse characters that hold a forbidden one. They stand before `rest`. -/
def checkCharacters (forbidden : Char → Bool) (cs rest : List Char) : Except TomlError Unit :=
  match cs.dropWhile (!forbidden ·) with
  | [] => .ok ()
  | c :: bad => .error (.malformed (.foundCharacter c) ((c :: bad).length + rest.length))

/-- Skip a comment, if there is one. -/
def skipComment : List Char → Except TomlError (List Char)
  | '#' :: cs => do
    let rest := cs.dropWhile (· != '\n')
    checkCharacters isForbidden (cs.takeWhile (· != '\n')) rest
    return rest
  | cs => .ok cs

/-- Skip white space, newlines and comments. A comment ends before a newline, so
    there are no more of them than characters. -/
def skipBlank : (budget : Nat) → List Char → Except TomlError (List Char)
  | 0, cs => .ok cs
  | n + 1, cs =>
    match cs.dropWhile isSpaceOrNewline with
    | '#' :: rest => do skipBlank n (← skipComment ('#' :: rest))
    | rest => .ok rest

/-! ## Quoted text -/

/-- The number with these hexadecimal digits. -/
def hexNumber? (ds : List Char) : Option Nat :=
  (ds.mapM JavaBuild.Text.hexValue?).map fun values => values.foldl (fun n d => 16 * n + d) 0

/-- The character that so many hexadecimal digits are the number of. -/
def readNumbered (width : Nat) (cs : List Char) : Except TomlError (Char × List Char) :=
  let digits := cs.take width
  let rest := cs.drop width
  match hexNumber? digits with
  | none => faultAt .hexadecimal cs
  | some n =>
    if digits.length < width then faultAt .hexadecimal cs
    else if h : n.isValidChar then .ok (Char.ofNatAux n h, rest)
    else faultAt .noCharacter rest

/-- The character that a letter after a backslash stands for. -/
def escapedChar? (c : Char) : Option Char :=
  [('b', '\x08'), ('t', '\t'), ('n', '\n'), ('f', '\x0c'), ('r', '\r'), ('"', '"'),
    ('\\', '\\')].lookup c

/-- What stands for the characters after a backslash. In a text of several lines
    a backslash at the end of a line takes away all white space that follows. -/
def readEscape (inLines : Bool) : List Char → Except TomlError (List Char × List Char)
  | 'u' :: cs => do let (c, rest) ← readNumbered 4 cs; return ([c], rest)
  | 'U' :: cs => do let (c, rest) ← readNumbered 8 cs; return ([c], rest)
  | c :: cs =>
    if inLines && isSpaceOrNewline c then
      match (c :: cs).dropWhile isSpace with
      | [] => .ok ([], [])
      | d :: rest => if d = '\n' then .ok ([], rest.dropWhile isSpaceOrNewline)
        else faultAt .escape (d :: rest)
    else match escapedChar? c with
      | some d => .ok ([d], cs)
      | none => faultAt .escape cs
  | [] => faultAt .escape []

/-- The rest of a text with escapes, to the closing quotes. -/
def readEscaped (inLines : Bool) : (budget : Nat) → List Char →
    Except TomlError (List Char × List Char)
  | 0, cs => faultAt .unterminated cs
  | n + 1, cs => match cs with
    | [] => faultAt .unterminated []
    | '\\' :: cs => do
      let (these, rest) ← readEscape inLines cs
      let (text, rest) ← readEscaped inLines n rest
      return (these ++ text, rest)
    | c :: cs =>
      if c = '"' ∧ ¬inLines then .ok ([], cs)
      else if c = '"' ∧ ['"', '"'].isPrefixOf cs then .ok ([], cs.drop 2)
      else if (if inLines then isForbiddenInLines c else isForbidden c) then
        faultAt (.illegalCharacter c) (c :: cs)
      else do
        let (text, rest) ← readEscaped inLines n cs
        return (c :: text, rest)

/-- What stands before three apostrophes, and what follows them. -/
def splitAtApostrophes : List Char → Option (List Char × List Char)
  | [] => none
  | '\'' :: '\'' :: '\'' :: rest => some ([], rest)
  | c :: cs => (splitAtApostrophes cs).map fun (before, rest) => (c :: before, rest)

/-- The rest of a literal text of one line. -/
def readLiteral (cs : List Char) : Except TomlError (List Char × List Char) :=
  let text := cs.takeWhile (· != '\'')
  match cs.dropWhile (· != '\'') with
  | [] => faultAt (.missing "'") []
  | rest => do
    checkCharacters isForbidden text rest
    return (text, rest.tail)

/-- The rest of a literal text of several lines. -/
def readLiteralLines (cs : List Char) : Except TomlError (List Char × List Char) :=
  match splitAtApostrophes cs with
  | none => faultAt (.missing "'''") []
  | some (text, rest) => do
    checkCharacters isForbiddenInLines text (['\'', '\'', '\''] ++ rest)
    return (text, rest)

/-- Up to two quotes before the closing ones of a text of several lines, which
    follow it when the first three quotes are taken as the closing ones. -/
def takeExtraQuotes (quote : Char) (text : List Char) (rest : List Char) : List Char × List Char :=
  let extra := (rest.take 2).takeWhile (· == quote)
  (text ++ extra, rest.drop extra.length)

/-- What follows the opening quotes of a text of several lines, without a newline
    at the start. -/
def afterOpening : List Char → List Char
  | '\n' :: cs => cs
  | cs => cs

/-- A quoted text of any kind, if one starts here. -/
def readText? : List Char → Option (Except TomlError (List Char × List Char))
  | '"' :: '"' :: '"' :: cs => some do
    let (text, rest) ← readEscaped true (cs.length + 1) (afterOpening cs)
    return takeExtraQuotes '"' text rest
  | '\'' :: '\'' :: '\'' :: cs => some do
    let (text, rest) ← readLiteralLines (afterOpening cs)
    return takeExtraQuotes '\'' text rest
  | '"' :: cs => some (readEscaped false (cs.length + 1) cs)
  | '\'' :: cs => some (readLiteral cs)
  | _ => none

/-! ## Keys -/

/-- Whether a character may stand in a key without quotes. -/
def isBareKeyChar (c : Char) : Bool := c.isAlphanum || c == '-' || c == '_'

/-- Whether a key may start with a character. -/
def startsKey (c : Char) : Bool := isBareKeyChar c || c == '"' || c == '\''

/-- One name of a key. -/
def readKeyPart (cs : List Char) : Except TomlError (String × List Char) := do
  match cs with
  | [] => faultAt .keyPart []
  | c :: rest =>
    if isBareKeyChar c then
      return (String.ofList (cs.takeWhile isBareKeyChar), cs.dropWhile isBareKeyChar)
    else if c = '\'' then
      let (text, rest) ← readLiteral rest
      return (String.ofList text, rest)
    else if c = '"' then
      let (text, rest) ← readEscaped false (rest.length + 1) rest
      return (String.ofList text, rest)
    else faultAt .keyPart cs

/-- The names of a key, dots between them, and what follows the key and the white
    space after it. -/
def readKeyParts : (budget : Nat) → List Char → Except TomlError (Key × List Char)
  | 0, cs => faultAt .keyPart cs
  | n + 1, cs => do
    let (part, rest) ← readKeyPart cs
    match skipSpace rest with
    | '.' :: rest => do
      let (parts, rest) ← readKeyParts n (skipSpace rest)
      return (part :: parts, rest)
    | rest => return ([part], rest)

/-- A key. -/
def readKey (cs : List Char) : Except TomlError (Key × List Char) :=
  readKeyParts (cs.length + 1) cs

end JavaBuild.Toml
