import JavaBuild.Text.Blank
import JavaBuild.Xml.NameChar
import JavaBuild.Xml.Node

/-!
# Selections

A stylesheet selects parts of a document by paths, as in `file/error` or
`@name`: the names of elements, each a child of the one before, and at the end
perhaps the name of an attribute (`Route`). A selection is what a path leads to,
or the number of these (`Selection`).
-/

namespace JavaBuild.Stylesheet

/-- A node that paths start from and lead to. -/
inductive Target where
  | element (e : Xml.Element)
  /-- The value of an attribute. -/
  | value (s : String)

/-- A path from an element. -/
structure Route where
  children : List String
  /-- The attribute at the end of the path. -/
  ending : Option String
  deriving DecidableEq, Repr

/-- What is selected. -/
inductive Selection where
  | nodes (r : Route)
  | count (r : Route)
  deriving DecidableEq, Repr

/-- Read a name. -/
def readName? : List Char → Option String
  | [] => none
  | c :: cs =>
    if Xml.isNameStart c ∧ cs.all Xml.isNameChar then some (String.ofList (c :: cs)) else none

/-- Read the steps of a path. Only the last may be an attribute. -/
def readSteps? : List (List Char) → Option Route
  | [] => none
  | [step] => match Text.trim step with
    | '@' :: name => (readName? (Text.trim name)).map fun n => ⟨[], some n⟩
    | name => (readName? name).map fun n => ⟨[n], none⟩
  | step :: steps => do
    let name ← readName? (Text.trim step)
    let route ← readSteps? steps
    return { route with children := name :: route.children }

/-- Read a path. -/
def Route.read? (cs : List Char) : Option Route := readSteps? (cs.splitOn '/')

/-- The name of the function that counts. -/
def counting : List Char := "count".toList

/-- Read the argument of a function, with its parentheses. -/
def readArgument? (cs : List Char) : Option Route :=
  match Text.trim cs with
  | '(' :: inside => if inside.getLast? = some ')' then Route.read? inside.dropLast else none
  | _ => none

/-- Read a selection. -/
def Selection.read? (s : String) : Option Selection :=
  let cs := Text.trim s.toList
  if counting.isPrefixOf cs ∧ cs.contains '(' then
    (readArgument? (cs.drop counting.length)).map count
  else (Route.read? cs).map nodes

mutual

/-- All text in a node. -/
def textIn : Xml.Node → String
  | .text s => s
  | .element _ _ content => textOf content

/-- All text in a content. -/
def textOf : List Xml.Node → String
  | [] => ""
  | node :: rest => textIn node ++ textOf rest

end

/-- The text that a node stands for. -/
def Target.text : Target → String
  | element e => textOf e.content
  | value s => s

/-- The elements that names lead to. -/
def descend (es : List Xml.Element) : List String → List Xml.Element
  | [] => es
  | name :: names => descend (es.flatMap fun e => e.childrenNamed (.plain name)) names

/-- The nodes that a path leads to from an element. -/
def Route.from (r : Route) (e : Xml.Element) : List Target :=
  let es := descend [e] r.children
  match r.ending with
  | none => es.map .element
  | some name => es.filterMap fun e => (e.attribute? name).map .value

/-- The nodes that a path leads to. Nothing is below an attribute. -/
def Route.nodes (r : Route) : Target → List Target
  | .element e => r.from e
  | .value _ => []

/-- The text of what is selected, that of the first if there are several. -/
def Selection.text (t : Target) : Selection → String
  | nodes r => match r.nodes t with
    | [] => ""
    | first :: _ => first.text
  | count r => toString (r.nodes t).length

example : Selection.read? "count( file/error )" = some (.count ⟨["file", "error"], none⟩) := by
  decide +kernel
example : Selection.read? "file/@name" = some (.nodes ⟨["file"], some "name"⟩) := by decide +kernel
example : Selection.read? "(((" = none := by decide +kernel

end JavaBuild.Stylesheet
