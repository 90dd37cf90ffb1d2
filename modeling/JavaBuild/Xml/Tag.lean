import JavaBuild.Xml.Entity
import JavaBuild.Xml.Namespace

/-!
# Start tags

A start tag as it is written (`RawTag`) is opened: the texts of its attributes
are read, attributes that are missing get the defaults declared for them, and
names are resolved in the namespaces that the tag itself binds.
-/

namespace JavaBuild.Xml

/-- What is declared about an attribute of an element. -/
structure AttributeRule where
  element : List Char
  /-- The name of the attribute. -/
  key : List Char
  /-- Whether all blanks of a value count. -/
  blanksCount : Bool
  fallback : Option (List Char)
  deriving DecidableEq, Repr

/-- The declarations of a document. -/
structure Doctype where
  entities : Entities := {}
  rules : List AttributeRule := []
  deriving DecidableEq, Repr

namespace Doctype

variable (d : Doctype)

/-- What is declared about an attribute. -/
def rule? (element key : List Char) : Option AttributeRule :=
  d.rules.find? fun r => r.element == element && r.key == key

/-- Declare an attribute. The first declaration counts. -/
def addRule (r : AttributeRule) : Doctype :=
  if (d.rule? r.element r.key).isSome then d else { d with rules := d.rules ++ [r] }

/-- The declarations while the text of an entity is read. -/
def enter (name : List Char) : Doctype := { d with entities := d.entities.enter name }

end Doctype

/-- A fault in a tag, with its place if it is not told at the start of the tag. -/
abbrev TagFault := XmlFault × Option Nat

/-- A fault that is told at the start of the tag. -/
def atTag {α : Type} : Except XmlFault α → Except TagFault α
  | .error fault => .error (fault, none)
  | .ok a => .ok a

/-- The written attributes of a tag with their texts, and the bindings they make. -/
def readAttributes (d : Doctype) (element : List Char) : Bindings → (seen : List (List Char)) →
    List RawAttribute → Except TagFault (List (List Char × List Char) × Bindings)
  | bindings, _, [] => .ok ([], bindings)
  | bindings, seen, a :: as => do
    if seen.contains a.name then throw (.duplicateAttribute, some a.nameLeft)
    let blanksCount := ((d.rule? element a.name).map (·.blanksCount)).getD true
    match attributeText d.entities blanksCount a.value with
    | .error (fault, place) => throw (fault, place.map (a.valueLeft + ·))
    | .ok text =>
      match boundLabel? a.name with
      | some label =>
        readAttributes d element (← atTag (bindings.bind label text)) (a.name :: seen) as
      | none => do
        let (rest, bindings) ← readAttributes d element bindings (a.name :: seen) as
        return ((a.name, text) :: rest, bindings)

/-- The attributes that a tag gets because they are missing, and the bindings they make. -/
def defaultAttributes (written : List (List Char)) : Bindings → List AttributeRule →
    Except XmlFault (List (List Char × List Char) × Bindings)
  | bindings, [] => .ok ([], bindings)
  | bindings, r :: rules =>
    match r.fallback with
    | none => defaultAttributes written bindings rules
    | some text =>
      if written.contains r.key then defaultAttributes written bindings rules
      else match boundLabel? r.key with
        | some label => do defaultAttributes written (← bindings.bind label text) rules
        | none => do
          let (rest, bindings) ← defaultAttributes written bindings rules
          return ((r.key, text) :: rest, bindings)

/-- Attributes with their names resolved. No two may have the same name then. -/
def resolveAttributes (bindings : Bindings) : (seen : List Name) → List (List Char × List Char) →
    Except XmlFault (List Attribute)
  | _, [] => .ok []
  | seen, (written, text) :: rest => do
    let name ← bindings.attributeName written
    if seen.contains name then throw .duplicateAttribute
    let attributes ← resolveAttributes bindings (name :: seen) rest
    return ⟨name, String.ofList text⟩ :: attributes

/-- The name and the attributes of a tag, and the bindings for its content. -/
def openTag (d : Doctype) (bindings : Bindings) (tag : RawTag) :
    Except TagFault (Name × List Attribute × Bindings) := do
  let (given, bindings) ← readAttributes d tag.name bindings [] tag.attributes
  let rules := d.rules.filter fun r => r.element == tag.name
  let (missing, bindings) ←
    atTag (defaultAttributes (tag.attributes.map (·.name)) bindings rules)
  let attributes ← atTag (resolveAttributes bindings [] (given ++ missing))
  let name ← atTag (bindings.elementName tag.name)
  return (name, attributes, bindings)

end JavaBuild.Xml
