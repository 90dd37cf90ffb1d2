import JavaBuild.Toml.Scalar
import JavaBuild.Toml.Table
import JavaBuild.Toml.Text

/-!
# Settings texts

A settings text in the TOML format is a sequence of statements, one on a line: a
key with its value, or a header that tells in which table the keys below it are.
`readSettings` gives the table of all of them, or the first error.
-/

namespace JavaBuild.Toml

/-- Tell where a fault is. -/
def placed {α : Type} (cs : List Char) : Except TomlFault α → Except TomlError α
  | .ok a => .ok a
  | .error fault => faultAt fault cs

/-- Whether a value is written in brackets or braces. -/
def isBracketed : Value → Bool
  | .table _ | .list _ => true
  | _ => false

/-! ## Values -/

/-- A value without brackets, if one starts here. -/
def readSimple (cs : List Char) : Except TomlError (Value × List Char) :=
  match readText? cs with
  | some result => result.map fun (text, rest) => (.text (String.ofList text), rest)
  | none =>
    if "true".toList.isPrefixOf cs then .ok (.bool true, cs.drop 4)
    else if "false".toList.isPrefixOf cs then .ok (.bool false, cs.drop 5)
    else (readScalar? cs).getD (faultAt .value cs)

/-- What is between a key and its value. -/
def readEquals : List Char → Except TomlError (List Char)
  | '=' :: rest => .ok (skipSpace rest)
  | cs => faultAt .equals cs

/-- An inline table while it is read. -/
structure InlineTable where
  fields : Fields := []
  locks : Locks := {}

/-- Put a value into an inline table. -/
def InlineTable.put (t : InlineTable) (key : Key) (value : Value) : Except TomlFault InlineTable :=
  if t.locks.isFrozen key then .error (.immutable key)
  else
    let name := key.getLast?.getD ""
    (putValue false key.dropLast name value (.duplicate name) t.fields).map fun fields =>
      { fields, locks := if isBracketed value then t.locks.freeze key else t.locks }

mutual

/-- A value. Each has a character at least, which bounds how many there are. -/
def readValue : (budget : Nat) → List Char → Except TomlError (Value × List Char)
  | 0, cs => faultAt .value cs
  | n + 1, cs => match cs with
    | '[' :: rest => do
      match ← skipBlank rest.length rest with
      | ']' :: rest => return (.list [], rest)
      | rest => do
        let (items, rest) ← readItems n rest
        return (.list items, rest)
    | '{' :: rest =>
      match skipSpace rest with
      | '}' :: rest => .ok (.table [], rest)
      | rest => readInline n {} rest
    | cs => readSimple cs

/-- The items of a list, to its closing bracket. -/
def readItems : (budget : Nat) → List Char → Except TomlError (List Value × List Char)
  | 0, cs => faultAt .value cs
  | n + 1, cs => do
    let (item, rest) ← readValue n cs
    match ← skipBlank rest.length rest with
    | ']' :: rest => return ([item], rest)
    | ',' :: rest =>
      match ← skipBlank rest.length rest with
      | ']' :: rest => return ([item], rest)
      | rest => do
        let (items, rest) ← readItems n rest
        return (item :: items, rest)
    | rest => faultAt .unclosedArray rest

/-- The fields of an inline table, to its closing brace. -/
def readInline : (budget : Nat) → InlineTable → List Char → Except TomlError (Value × List Char)
  | 0, _, cs => faultAt .value cs
  | n + 1, t, cs => do
    let (key, rest) ← readKey cs
    let (value, rest) ← readValue n (← readEquals rest)
    let t ← placed rest (t.put key value)
    match skipSpace rest with
    | '}' :: rest => return (.table t.fields, rest)
    | ',' :: rest => readInline n t (skipSpace rest)
    | rest => faultAt .unclosedTable rest

end

/-! ## Statements -/

/-- A settings text while it is read. -/
structure Progress where
  fields : Fields := []
  locks : Locks := {}
  /-- Tables that dotted keys made, which the next header locks. -/
  dotted : List Key := []
  /-- The table that keys are in. -/
  header : Key := []

namespace Progress

/-- The progress with the tables locked that dotted keys made. -/
def lockDotted (p : Progress) : Progress :=
  { p with locks := p.locks.declare p.dotted, dotted := [] }

/-- Declare a table. -/
def openTable (p : Progress) (key : Key) : Except TomlFault Progress :=
  if p.locks.isDeclared key || p.locks.isFrozen key then .error (.declaredTwice key)
  else (Toml.openTable key p.fields).map fun fields =>
    { p with fields, locks := p.locks.declare [key], header := key }

/-- Declare a further table of a list of tables. -/
def appendTable (p : Progress) (key : Key) : Except TomlFault Progress :=
  if p.locks.isFrozen key then .error (.immutable key)
  else (Toml.appendTable key p.fields).map fun fields =>
    { p with fields, locks := (p.locks.forget key).declare [key], header := key }

/-- The keys of the tables that a dotted key leads through. -/
def tablesOf (header key : Key) : List Key :=
  (List.range (key.length - 1)).map fun i => header ++ key.take (i + 1)

/-- Put a value under a key. -/
def put (p : Progress) (key : Key) (value : Value) : Except TomlFault Progress :=
  let tables := tablesOf p.header key
  match tables.find? p.locks.isDeclared with
  | some table => .error (.redefined table)
  | none =>
    let table := p.header ++ key.dropLast
    if p.locks.isFrozen table then .error (.immutable table)
    else
      (putValue true table (key.getLast?.getD "") value .overwritten p.fields).map fun fields =>
        { p with
          fields
          dotted := tables ++ p.dotted
          locks := if isBracketed value then p.locks.freeze (p.header ++ key) else p.locks }

end Progress

/-- The header of a table, after its opening bracket. -/
def readHeader (p : Progress) : List Char → Except TomlError (Progress × List Char)
  | '[' :: cs => do
    let (key, rest) ← readKey (skipSpace cs)
    let p ← placed rest (p.lockDotted.appendTable key)
    match rest with
    | ']' :: ']' :: rest => return (p, rest)
    | rest => faultAt .arrayTableEnd rest
  | cs => do
    let (key, rest) ← readKey (skipSpace cs)
    let p ← placed rest (p.lockDotted.openTable key)
    match rest with
    | ']' :: rest => return (p, rest)
    | rest => faultAt .tableEnd rest

/-- A key and its value. -/
def readAssignment (p : Progress) (cs : List Char) : Except TomlError (Progress × List Char) := do
  let (key, rest) ← readKey cs
  let rest ← readEquals rest
  let (value, rest) ← readValue (rest.length + 1) rest
  return (← placed rest (p.put key value), rest)

/-- What a line says, which does not start with white space. -/
def readStatement (p : Progress) (cs : List Char) : Except TomlError (Progress × List Char) :=
  match cs with
  | '[' :: rest => readHeader p rest
  | '#' :: _ => .ok (p, cs)
  | c :: _ => if startsKey c then readAssignment p cs else faultAt .statement cs
  | [] => .ok (p, [])

/-- The table of all statements. Each line has a character at least, its end, which
    bounds how many there are. -/
def readStatements : (budget : Nat) → Progress → List Char → Except TomlError Fields
  | 0, p, _ => .ok p.fields
  | n + 1, p, cs =>
    match skipSpace cs with
    | [] => .ok p.fields
    | '\n' :: rest => readStatements n p rest
    | cs => do
      let (p, rest) ← readStatement p cs
      match ← skipComment (skipSpace rest) with
      | [] => return p.fields
      | '\n' :: rest => readStatements n p rest
      | rest => faultAt .lineEnd rest

/-- A text with each carriage return that a line feed follows left out. -/
def normalizeNewlines : List Char → List Char
  | '\r' :: '\n' :: cs => '\n' :: normalizeNewlines cs
  | c :: cs => c :: normalizeNewlines cs
  | [] => []

/-- Read a settings text. -/
def readSettings (text : List Char) : Except TomlError Fields :=
  readStatements (text.length + 1) {} text

end JavaBuild.Toml
