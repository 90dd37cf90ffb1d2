import JavaBuild.Xml.Tag

/-!
# Content

Reading the content of an element, down to the text or up to the end tag, into
nodes. Runs of text around comments, CDATA sections and replaced references are
one run.

A reference to an entity stands for the nodes of its text, which has to be a
content by itself. All faults in there are told at the reference.
-/

namespace JavaBuild.Xml

/-- A fault, and how many characters before the end it is. -/
abbrev PlacedFault := XmlFault × Nat

/-- How a content ends. -/
inductive ContentEnd where
  | endOfText
  /-- An end tag, with the place of its name. -/
  | endTag (name : List Char) (nameLeft : Nat)
  deriving DecidableEq, Repr

/-- The nodes of a content, how it ends, and the characters after that. -/
structure Content where
  nodes : List Node
  ending : ContentEnd
  rest : List Char

/-- A run of text before a content. -/
def Content.consText (text : List Char) (content : Content) : Content :=
  { content with nodes := Xml.consText text content.nodes }

/-- How a text that is read ends, and what it means if an element is open then. -/
structure TextEnd where
  ending : Ending
  unclosed : XmlFault

/-- The next piece of content that starts here, if there is more. A carriage
    return at the end of the document belongs to no line. -/
def nextContent (e : TextEnd) (cs : List Char) :
    Except PlacedFault (Option (ContentToken × List Char)) :=
  if cs.isEmpty ∧ e.ending = .complete then .ok none
  else if cs = ['\r'] ∧ ¬e.ending.hasMore ∧ e.unclosed = .noElement then .error (.noElement, 1)
  else match scanContent e.ending cs with
    | .error fault => .error (fault.locate cs.length)
    | .ok found => .ok (some found)

/-- Read a content. Each node takes a character at least, which bounds their
    number. Entities are replaced by `expand`. -/
def readContent (d : Doctype) (e : TextEnd)
    (expand : Bindings → List Char → Except XmlFault (List Node)) :
    (budget : Nat) → Bindings → List Char → Except PlacedFault Content
  | 0, _, cs => .error (.noElement, cs.length)
  | n + 1, bindings, cs => do
    let here := cs.length
    match ← nextContent e cs with
    | none => return ⟨[], .endOfText, []⟩
    | some (.data text, rest) =>
      return (← readContent d e expand n bindings rest).consText text
    | some (.passed, rest) => readContent d e expand n bindings rest
    | some (.declaration, _) => throw (.misplacedDeclaration, here)
    | some (.reference (.character none), _) => throw (.badCharacterNumber, here)
    | some (.reference (.character (some c)), rest) =>
      return (← readContent d e expand n bindings rest).consText [c]
    | some (.reference (.entity name), rest) =>
      match predefined? name with
      | some c => return (← readContent d e expand n bindings rest).consText [c]
      | none =>
        match expand bindings name with
        | .error fault => throw (fault, here)
        | .ok nodes =>
          let content ← readContent d e expand n bindings rest
          return { content with nodes := joinNodes nodes content.nodes }
    | some (.endTag name nameLeft, rest) => return ⟨[], .endTag name nameLeft, rest⟩
    | some (.startTag tag, rest) =>
      match openTag d bindings tag with
      | .error (fault, place) => throw (fault, place.getD here)
      | .ok (name, attributes, inner) =>
        if tag.closed then
          let content ← readContent d e expand n bindings rest
          return { content with nodes := .element name attributes [] :: content.nodes }
        else
          let body ← readContent d e expand n inner rest
          match body.ending with
          | .endOfText => throw (e.unclosed, body.rest.length)
          | .endTag closing nameLeft =>
            if closing ≠ tag.name then throw (.mismatchedTag, nameLeft)
            let content ← readContent d e expand n bindings body.rest
            return { content with nodes := .element name attributes body.nodes :: content.nodes }

/-- The nodes that the text of an entity stands for. -/
def expandInContent : (depth : Nat) → Doctype → Bindings → List Char → Except XmlFault (List Node)
  | 0, _, _, _ => .error .recursiveEntity
  | depth + 1, d, bindings, name => match d.entities.get? name with
    | none =>
      .error (if d.entities.incomplete then .skippedEntity (String.ofList name)
        else .undefinedEntity)
    | some .opened => .error .recursiveEntity
    | some .unparsed => .error .binaryEntity
    | some .external => .error (.skippedEntity (String.ofList name))
    | some (.internal text) =>
      let inner := d.enter name
      match readContent inner ⟨.complete, .asynchronousEntity⟩ (expandInContent depth inner)
          (text.length + 1) bindings text with
      | .error (fault, _) => .error fault
      | .ok ⟨_, .endTag _ _, _⟩ => .error .asynchronousEntity
      | .ok ⟨nodes, .endOfText, _⟩ => .ok nodes

/-- Read the content of the root, to its end tag. -/
def readRootContent (d : Doctype) (e : Ending) (bindings : Bindings) (cs : List Char) :
    Except PlacedFault Content :=
  readContent d ⟨e, .noElement⟩ (expandInContent d.entities.depth d) (cs.length + 1) bindings cs

end JavaBuild.Xml
