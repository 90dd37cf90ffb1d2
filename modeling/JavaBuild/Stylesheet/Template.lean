import JavaBuild.Stylesheet.Selection
import JavaBuild.Xml.Namespace

/-!
# Templates

A template is a list of instructions (`Instruction`): texts and elements that are
copied to the page, values that are filled in, and parts that are repeated for
each selected node. `Template.read?` reads the content of a template element, in
which text of blanks alone does not count, and `Template.fill` gives the page for
a node.
-/

namespace JavaBuild.Stylesheet

/-- A part of the value of an attribute. -/
inductive Piece where
  | text (s : String)
  /-- A selection in braces. -/
  | value (selection : Selection)
  deriving DecidableEq, Repr

/-- A step in making a page. -/
inductive Instruction where
  | text (s : String)
  | element (name : String) (attributes : List (Xml.Name × List Piece)) (body : List Instruction)
  | value (selection : Selection)
  | forEach (route : Route) (body : List Instruction)
  deriving Inhabited

/-- The namespace of instructions. -/
def instructionSpace : String := Xml.standardSpace "1999/XSL/Transform"

/-- The name of an instruction. -/
def instruction (base : String) : Xml.Name := ⟨some instructionSpace, base⟩

/-- Read the value of an attribute. Doubled braces stand for themselves. -/
def readPieces? : (budget : Nat) → List Char → Option (List Piece)
  | 0, _ => none
  | _ + 1, [] => some []
  | budget + 1, '\x7b' :: '\x7b' :: cs => (readPieces? budget cs).map (.text "\x7b" :: ·)
  | budget + 1, '\x7d' :: '\x7d' :: cs => (readPieces? budget cs).map (.text "\x7d" :: ·)
  | _ + 1, '\x7d' :: _ => none
  | budget + 1, '\x7b' :: cs =>
    match cs.dropWhile (· != '\x7d') with
    | [] => none
    | _ :: rest => do
      let selection ← Selection.read? (String.ofList (cs.takeWhile (· != '\x7d')))
      return .value selection :: (← readPieces? budget rest)
  | budget + 1, c :: cs => (readPieces? budget cs).map (.text c.toString :: ·)

/-- Read an attribute of an element that is copied. -/
def readAttribute? (a : Xml.Attribute) : Option (Xml.Name × List Piece) :=
  let cs := a.value.toList
  (readPieces? (cs.length + 1) cs).map fun pieces => (a.name, pieces)

/-- The selection of an instruction. -/
def selectionOf? (attributes : List Xml.Attribute) : Option Selection :=
  ((Xml.Element.mk (instruction "") attributes []).attribute? "select").bind Selection.read?

mutual

/-- Read an instruction, if the node is one. -/
def Instruction.read? : Xml.Node → Option (List Instruction)
  | .text s => some (if s.toList.all Xml.isXmlSpace then [] else [.text s])
  | .element name attributes content =>
    if name = instruction "value-of" then
      (selectionOf? attributes).map fun selection => [.value selection]
    else if name = instruction "for-each" then
      match selectionOf? attributes with
      | some (.nodes route) => (Template.read? content).map fun body => [.forEach route body]
      | _ => none
    else if name.space = some instructionSpace then none
    else do
      let values ← attributes.mapM readAttribute?
      let body ← Template.read? content
      return [.element name.base values body]

/-- Read the content of a template. -/
def Template.read? : List Xml.Node → Option (List Instruction)
  | [] => some []
  | node :: rest => do
    let first ← Instruction.read? node
    let others ← Template.read? rest
    return first ++ others

end

/-- A part of the value of an attribute, filled in. -/
def Piece.fill (t : Target) : Piece → String
  | text s => s
  | value selection => selection.text t

/-- An attribute, filled in. -/
def fillAttribute (t : Target) (a : Xml.Name × List Piece) : Xml.Attribute :=
  ⟨a.1, String.join (a.2.map (·.fill t))⟩

mutual

/-- What an instruction adds to the page in front of what follows. -/
def Instruction.fill (t : Target) : Instruction → List Xml.Node
  | .text s => [.text s]
  | .element name attributes body =>
    [.element (.plain name) (attributes.map (fillAttribute t)) (Template.fill t body)]
  | .value selection => [.text (selection.text t)]
  | .forEach route body =>
    ((route.nodes t).map fun t' => Template.fill t' body).foldr Xml.joinNodes []

/-- The page for a node, in which adjacent texts are joined. -/
def Template.fill (t : Target) : List Instruction → List Xml.Node
  | [] => []
  | first :: rest => Xml.joinNodes (Instruction.fill t first) (Template.fill t rest)

end

end JavaBuild.Stylesheet
