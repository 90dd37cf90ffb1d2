import JavaBuild.Xml.Scan

/-!
# Entities

A document may declare *entities*, names for pieces of text. A reference to one
stands for its text, in which there may be further references. While the text of
an entity is read the entity is `opened`, and a reference to it there is an
error (`Entities.enter`).

In the value of an attribute (`readValue`) white space counts as blanks,
references are replaced, and an entity's text may hold no `<`. A fault is told at
the reference or at the tag.
-/

namespace JavaBuild.Xml

/-- What an entity stands for. -/
inductive Entity where
  | internal (text : List Char)
  /-- A text outside the document. -/
  | external
  /-- What is not text. -/
  | unparsed
  /-- A text that is being read. -/
  | opened
  deriving DecidableEq, Repr

/-- The entities of a document. -/
structure Entities where
  declared : List (List Char × Entity) := []
  /-- Whether there may be declarations that are not known. -/
  incomplete : Bool := false
  deriving DecidableEq, Repr

/-- The entities that need no declaration. -/
def predefined? (name : List Char) : Option Char :=
  [("lt".toList, '<'), ("gt".toList, '>'), ("amp".toList, '&'), ("quot".toList, '"'),
    ("apos".toList, '\'')].lookup name

namespace Entities

variable (t : Entities)

/-- What an entity stands for. -/
def get? (name : List Char) : Option Entity := t.declared.lookup name

/-- Declare an entity. The first declaration of a name counts. -/
def declare (name : List Char) (entity : Entity) : Entities :=
  if (t.get? name).isSome ∨ (predefined? name).isSome then t
  else { t with declared := t.declared ++ [(name, entity)] }

/-- The entities while the text of one of them is read. -/
def enter (name : List Char) : Entities :=
  { t with declared := t.declared.map fun (n, entity) => (n, if n = name then .opened else entity) }

/-- A bound for the number of entities that can be open, and one more. -/
def depth : Nat := t.declared.length + 1

end Entities

/-! ## Attribute values -/

/-- A fault in an attribute value, with its distance from the end of the value
    unless it is told at the tag. -/
abbrev ValueFault := XmlFault × Option Nat

/-- The text of an attribute value. While `passing`, the characters up to a
    semicolon belong to a reference that has been replaced. An entity is replaced by
    `expand`, which tells whether its fault counts at the reference. -/
def readValue (expand : List Char → Except (XmlFault × Bool) (List Char)) :
    (passing : Bool) → List Char → Except ValueFault (List Char)
  | _, [] => .ok []
  | true, c :: cs => readValue expand (c != ';') cs
  | false, '\r' :: '\n' :: cs => (readValue expand false cs).map (' ' :: ·)
  | false, c :: cs =>
    if c = '&' then
      match scanReference .complete cs with
      | .error (.found fault left) => .error (fault, some left)
      | .error _ => .error (.invalidToken, some (cs.length + 1))
      | .ok (.character none, _) => .error (.badCharacterNumber, some (cs.length + 1))
      | .ok (.character (some d), _) => (readValue expand true cs).map (d :: ·)
      | .ok (.entity name, _) =>
        match predefined? name with
        | some d => (readValue expand true cs).map (d :: ·)
        | none => match expand name with
          | .error (fault, here) => .error (fault, if here then some (cs.length + 1) else none)
          | .ok text => (readValue expand true cs).map (text ++ ·)
    else if c = '<' then .error (.invalidToken, some (cs.length + 1))
    else (readValue expand false cs).map ((if isXmlSpace c then ' ' else c) :: ·)

/-- The text of an entity in an attribute value. -/
def expandInValue : (depth : Nat) → Entities → List Char → Except (XmlFault × Bool) (List Char)
  | 0, _, _ => .error (.recursiveEntity, false)
  | depth + 1, t, name => match t.get? name with
    | none => if t.incomplete then .ok [] else .error (.undefinedEntity, false)
    | some .opened => .error (.recursiveEntity, false)
    | some .unparsed => .error (.binaryEntity, true)
    | some .external => .error (.externalInAttribute, true)
    | some (.internal text) => match readValue (expandInValue depth (t.enter name)) false text with
      | .error (fault, _) => .error (fault, false)
      | .ok value => .ok value

/-- A value without blanks at its ends and with single blanks only. -/
def collapse (value : List Char) : List Char :=
  [' '].intercalate ((value.splitOn ' ').filter fun word => !word.isEmpty)

/-- The text of an attribute value, with its blanks collapsed unless they count. -/
def attributeText (t : Entities) (blanksCount : Bool) (value : List Char) :
    Except ValueFault (List Char) :=
  (readValue (expandInValue t.depth t) false value).map fun text =>
    if blanksCount then text else collapse text

end JavaBuild.Xml
