import JavaBuild.Value

/-!
# Errors of settings texts

A text that is no TOML is told by its first fault and where that is. A number
that is too long to be read is no fault of the text.

While reading, a place is told by the number of characters left from there.
-/

namespace JavaBuild.Toml

/-- The names that lead to a value. -/
abbrev Key := List String

/-- What is wrong with a text. -/
inductive TomlFault where
  | statement
  | lineEnd
  | tableEnd
  | arrayTableEnd
  | equals
  | keyPart
  | value
  | date
  | unclosedArray
  | unclosedTable
  | unterminated
  /-- There is no such delimiter. -/
  | missing (delimiter : String)
  | foundCharacter (c : Char)
  | illegalCharacter (c : Char)
  | escape
  | hexadecimal
  | noCharacter
  | declaredTwice (key : Key)
  | immutable (key : Key)
  | redefined (key : Key)
  | overwritten
  | duplicate (name : String)
  deriving DecidableEq, Repr

/-- A key as it is shown in messages. -/
def keyLiteral (key : Key) : String := tupleLiteral (key.map Text.quoted)

/-- What is wrong, in words. -/
def TomlFault.text : TomlFault → String
  | statement => "Invalid statement"
  | lineEnd => "Expected newline or end of document after a statement"
  | tableEnd => "Expected ']' at the end of a table declaration"
  | arrayTableEnd => "Expected ']]' at the end of an array declaration"
  | equals => "Expected '=' after a key in a key/value pair"
  | keyPart => "Invalid initial character for a key part"
  | value => "Invalid value"
  | date => "Invalid date or datetime"
  | unclosedArray => "Unclosed array"
  | unclosedTable => "Unclosed inline table"
  | unterminated => "Unterminated string"
  | missing delimiter => "Expected " ++ Text.quoted delimiter
  | foundCharacter c => "Found invalid character " ++ Text.quoted (String.singleton c)
  | illegalCharacter c => "Illegal character " ++ Text.quoted (String.singleton c)
  | escape => "Unescaped '\\' in a string"
  | hexadecimal => "Invalid hex value"
  | noCharacter => "Escaped character is not a Unicode scalar value"
  | declaredTwice key => s!"Cannot declare {keyLiteral key} twice"
  | immutable key => s!"Cannot mutate immutable namespace {keyLiteral key}"
  | redefined key => s!"Cannot redefine namespace {keyLiteral key}"
  | overwritten => "Cannot overwrite a value"
  | duplicate name => "Duplicate inline table key " ++ Text.quoted name

/-- Why a text cannot be read. -/
inductive TomlError where
  /-- There is a fault with so many characters left. -/
  | malformed (fault : TomlFault) (left : Nat)
  /-- There is a number of so many digits. -/
  | tooManyDigits (digits : Nat)
  deriving DecidableEq, Repr

/-- A fault where these characters are left. -/
def faultAt {α : Type} (fault : TomlFault) (cs : List Char) : Except TomlError α :=
  .error (.malformed fault cs.length)

/-- Where in a text so many characters are left: line and column, counted from one. -/
def placeText (text : List Char) (left : Nat) : String :=
  if left = 0 then "end of document"
  else
    let before := text.take (text.length - left)
    let line := (before.filter (· == '\n')).length + 1
    let column := (before.reverse.takeWhile (· != '\n')).length + 1
    s!"line {line}, column {column}"

/-- The message for a fault in a text. -/
def faultMessage (text : List Char) (fault : TomlFault) (left : Nat) : String :=
  s!"{fault.text} (at {placeText text left})"

end JavaBuild.Toml
