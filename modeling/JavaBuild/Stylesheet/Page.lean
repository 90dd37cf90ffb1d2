import JavaBuild.Xml.Node

/-!
# Writing pages

A page is written as HTML (`writePage`). Elements that have no content by their
kind have no end tag either. Between the tags of block elements lines are
broken, but not beside text, not around an only child, and not in an element
whose name starts with `p`, where blanks may count.
-/

namespace JavaBuild.Stylesheet

/-- The elements that have no content, and no end tag. -/
def voidNames : List String :=
  ["area", "base", "basefont", "br", "col", "frame", "hr", "img", "input", "isindex", "link",
    "meta", "param"]

/-- The elements beside which lines may be broken. -/
def blockNames : List String :=
  ["address", "area", "base", "blockquote", "body", "caption", "center", "col", "colgroup", "dd",
    "dir", "div", "dl", "dt", "fieldset", "form", "frame", "frameset", "h1", "h2", "h3", "h4", "h5",
    "h6", "head", "hr", "html", "isindex", "legend", "li", "link", "menu", "meta", "noframes",
    "noscript", "ol", "optgroup", "option", "p", "param", "pre", "style", "table", "tbody", "td",
    "tfoot", "th", "thead", "title", "tr", "ul"]

/-- The elements whose end tag is left out if they are empty. -/
def openNames : List String := ["li"]

/-- The elements whose text is written as it is. -/
def rawNames : List String := ["script", "style"]

/-- Whether an element of one of these names is meant. Letter case does not count. -/
def isAmong (names : List String) (name : String) : Bool := names.contains name.toLower

/-- Whether the name of an element starts with `p`. -/
def startsWithP (name : String) : Bool := name.toList.head? == some 'p'

/-- A character of a text. -/
def writeChar : Char → List Char
  | '&' => "&amp;".toList
  | '<' => "&lt;".toList
  | '>' => "&gt;".toList
  | c => [c]

/-- A text. -/
def writeText (s : String) : String := String.ofList (s.toList.flatMap writeChar)

/-- The value of an attribute in quotes: double ones, if the value has not only these. -/
def writeQuoted (s : String) : String :=
  if !s.toList.contains '"' then "\"" ++ s ++ "\""
  else if !s.toList.contains '\'' then "'" ++ s ++ "'"
  else "\"" ++ s.replace "\"" "&quot;" ++ "\""

/-- An attribute with a blank in front. -/
def writeAttribute (a : Xml.Attribute) : String :=
  " " ++ a.name.base ++ "=" ++ writeQuoted (writeText a.value)

/-- Whether a node is text. -/
def isText : Xml.Node → Bool
  | .text _ => true
  | .element .. => false

/-- Whether lines are broken at the start and the end of the content of a block
    element, given the node there. -/
def breaksInside (name : String) (content : List Xml.Node) (atEdge : Option Xml.Node) : Bool :=
  1 < content.length && !startsWithP name && atEdge.any (!isText ·)

/-- Whether a line is broken between a block element and the node that follows
    it in the element of this name. -/
def breaksAfter (around : Option String) (next : Option Xml.Node) : Bool :=
  around.any (!startsWithP ·) && next.any (!isText ·)

/-- A line feed, if a condition holds. -/
def newlineIf (b : Bool) : String := if b then "\n" else ""

mutual

/-- A node in the element of a name, and what follows it there. -/
def writeNode (around : Option String) (next : Option Xml.Node) : Xml.Node → String
  | .text s => if around.any (isAmong rawNames) then s else writeText s
  | .element name attributes content =>
    let tag := name.base
    let block := isAmong blockNames tag
    let opening := "<" ++ tag ++ String.join (attributes.map writeAttribute) ++ ">"
    let closing :=
      if isAmong voidNames tag then ""
      else if content.isEmpty then if isAmong openNames tag then "" else "</" ++ tag ++ ">"
      else
        newlineIf (block && breaksInside tag content content.head?) ++
          writeNodes (some tag) content ++
          newlineIf (block && breaksInside tag content content.getLast?) ++ "</" ++ tag ++ ">"
    opening ++ closing ++ newlineIf (block && breaksAfter around next)

/-- The nodes in the element of a name. -/
def writeNodes (around : Option String) : List Xml.Node → String
  | [] => ""
  | node :: rest => writeNode around rest.head? node ++ writeNodes around rest

end

/-- Tells the encoding of a page. -/
def encodingElement : Xml.Node :=
  .element (.plain "meta") [⟨.plain "http-equiv", "Content-Type"⟩,
    ⟨.plain "content", "text/html; charset=UTF-8"⟩] []

/-- An element with its encoding told first, if it is a head. -/
def markHead : Xml.Node → Xml.Node
  | .element name attributes content =>
    if name.base.toLower = "head" then .element name attributes (encodingElement :: content)
    else .element name attributes content
  | node => node

/-- A page with its encoding told in its head. -/
def markPage : Xml.Node → Xml.Node
  | .element name attributes content =>
    if name.base.toLower = "html" then .element name attributes (content.map markHead)
    else .element name attributes content
  | node => node

/-- A page as HTML. -/
def writePage (content : List Xml.Node) : String :=
  if content.isEmpty then "" else writeNodes none (content.map markPage) ++ "\n"

end JavaBuild.Stylesheet
