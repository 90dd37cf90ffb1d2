import JavaBuild.Checkstyle.Run
import JavaBuild.Stylesheet.Page
import JavaBuild.Stylesheet.Template
import JavaBuild.Xml.Document

/-!
# An engine for plain stylesheets

A run takes the engine for its stylesheets from elsewhere
(`Checkstyle.Engine`). `Stylesheet.engine` is one of them. It is not one for the
whole language: a stylesheet is plain if it has one template, for the root of
documents with a root of some name, which copies texts and elements, fills in
values and repeats parts, and if it says whether the page is HTML or plain text
(`Stylesheet`). A document with another root gives all its text. Any other
stylesheet is refused, whatever other engines make of it.
-/

namespace JavaBuild

/-- How a page is written. -/
inductive Stylesheet.Method where
  | html
  | text
  deriving DecidableEq, Repr

/-- How pages are made of documents. -/
structure Stylesheet where
  method : Stylesheet.Method
  /-- The name of the root that the template is for. -/
  root : String
  template : List Stylesheet.Instruction

namespace Stylesheet

/-- Read how a page is written. -/
def Method.read? (e : Xml.Element) : Option Method :=
  match e.attribute? "method" with
  | none | some "html" => some .html
  | some "text" => some .text
  | some _ => none

/-- Read the name of the root that a template is for. -/
def readRoot? (e : Xml.Element) : Option String :=
  (e.attribute? "match").bind fun path => match path.toList with
    | '/' :: name => readName? name
    | _ => none

/-- Read a stylesheet. -/
def ofElement? (e : Xml.Element) : Option Stylesheet := do
  guard (e.name = instruction "stylesheet")
  let method ← match e.childrenNamed (instruction "output") with
    | [] => some .html
    | output :: _ => Method.read? output
  match e.childrenNamed (instruction "template") with
  | [template] => return ⟨method, ← readRoot? template, ← Template.read? template.content⟩
  | _ => none

/-- What a document gives. -/
def nodesOf (s : Stylesheet) (document : Xml.Element) : List Xml.Node :=
  if document.name = .plain s.root then Template.fill (.element document) s.template
  else Xml.consText (textOf document.content).toList []

/-- The page of a document. -/
def pageOf (s : Stylesheet) (document : Xml.Element) : String :=
  let nodes := s.nodesOf document
  match s.method with
  | .html => writePage nodes
  | .text => textOf nodes

/-- Read a document, if it can be read. -/
def readDocument? (bytes : ByteArray) : Option Xml.Element := (Xml.readDocument bytes).toOption

/-- The page that a stylesheet makes of a document, if both can be read. -/
def render? (style document : ByteArray) : Option String := do
  let s ← ofElement? (← readDocument? style)
  return s.pageOf (← readDocument? document)

/-- The engine for plain stylesheets. It leaves the files as they are. -/
def engine : Checkstyle.Engine := fun w data style =>
  let page := do
    let styleBytes ← (w.readFile style).toOption
    render? styleBytes (← (w.readFile data).toOption)
  ((page.map .page).getD .refused, w.files)

end Stylesheet

end JavaBuild
