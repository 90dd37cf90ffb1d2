import JavaBuild.Xml.NameChar

/-!
# The XML declaration

A document may start with `<?xml version="…" encoding="…" standalone="…"?>`,
where the version comes first and the other two are optional. Reading it
(`XmlDeclaration.read`) gives the encoding and whether the document stands alone,
or tells where it is malformed.
-/

namespace JavaBuild.Xml

/-- What an XML declaration says. -/
structure XmlDeclaration where
  /-- The name of the encoding, and how many characters are left where it starts. -/
  encoding : Option (String × Nat) := none
  standalone : Bool := false
  deriving DecidableEq, Repr

/-- One `name="value"`, and the characters from each of its places on. -/
structure PseudoAttribute where
  name : List Char
  nameOn : List Char
  value : List Char
  valueOn : List Char
  rest : List Char

/-- Whether a character may stand in a value. -/
def isDeclarationChar (c : Char) : Bool :=
  c.isAlphanum || c == '.' || c == '-' || c == '_'

/-- The value after its opening quote. -/
def readQuotedValue (quote : Char) (cs : List Char) : Except (List Char) (List Char × List Char) :=
  match cs.dropWhile isDeclarationChar with
  | c :: rest =>
    if c = quote then .ok (cs.takeWhile isDeclarationChar, rest) else .error (c :: rest)
  | [] => .error []

/-- The `name="value"` with white space before it, if there is one. The error is
    the characters from the place of the fault on. -/
def PseudoAttribute.read (cs : List Char) : Except (List Char) (Option PseudoAttribute) :=
  let start := cs.dropWhile isXmlSpace
  if start.isEmpty then .ok none
  else if !cs.head?.any isXmlSpace then .error cs
  else
    let inName := fun c : Char => c != '=' && !isXmlSpace c && c.toNat < 0x80
    let name := start.takeWhile inName
    match (start.dropWhile inName).dropWhile isXmlSpace with
    | '=' :: after =>
      if name.isEmpty then .error start
      else match after.dropWhile isXmlSpace with
        | quote :: valueOn =>
          if quote = '"' ∨ quote = '\'' then
            match readQuotedValue quote valueOn with
            | .error bad => .error bad
            | .ok (value, rest) => .ok (some ⟨name, start, value, valueOn, rest⟩)
          else .error (quote :: valueOn)
        | [] => .error []
    | bad => .error bad

/-- The rest of a declaration from `standalone` on. -/
def readStandalone (encoding : Option (String × Nat)) (a : PseudoAttribute) :
    Except (List Char) XmlDeclaration :=
  if a.name ≠ "standalone".toList then .error a.nameOn
  else if a.value ≠ "yes".toList ∧ a.value ≠ "no".toList then .error a.valueOn
  else match a.rest.dropWhile isXmlSpace with
    | [] => .ok { encoding, standalone := a.value == "yes".toList }
    | bad => .error bad

/-- The rest of a declaration after its version. -/
def readAfterVersion (cs : List Char) : Except (List Char) XmlDeclaration := do
  match ← PseudoAttribute.read cs with
  | none => return {}
  | some a =>
    if a.name = "encoding".toList then
      if !a.value.head?.any Char.isAlpha then throw a.valueOn
      let encoding := some (String.ofList a.value, a.valueOn.length)
      match ← PseudoAttribute.read a.rest with
      | none => return { encoding }
      | some b => readStandalone encoding b
    else readStandalone none a

/-- Read the characters between `<?xml` and `?>`. Places are counted from the end
    of these, and a fault is told by its place. -/
def XmlDeclaration.read (cs : List Char) : Except Nat XmlDeclaration :=
  match (do
    match ← PseudoAttribute.read cs with
    | none => throw cs
    | some a => if a.name = "version".toList then readAfterVersion a.rest else throw a.nameOn) with
  | .ok declaration => .ok declaration
  | .error bad => .error bad.length

end JavaBuild.Xml
