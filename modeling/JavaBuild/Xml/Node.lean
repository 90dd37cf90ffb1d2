/-!
# Document trees

A document is a tree of elements. An `Element` has a name, attributes and a
content, which is a list of runs of text and elements (`Node`). Names are
qualified by a namespace (`Name`); a name without one is *plain*.

Looking into an element, `children` gives the elements of its content,
`leadingText` the text before the first of them, and `attribute?` the value of
an attribute with a plain name.
-/

namespace JavaBuild.Xml

/-- A name, in a namespace or in none. -/
structure Name where
  space : Option String
  base : String
  deriving DecidableEq, Repr, Inhabited

/-- A name in no namespace. -/
def Name.plain (base : String) : Name := ⟨none, base⟩

/-- An attribute with its value. -/
structure Attribute where
  name : Name
  value : String
  deriving DecidableEq, Repr

/-- A part of the content of an element. -/
inductive Node where
  | text (s : String)
  | element (name : Name) (attributes : List Attribute) (content : List Node)
  deriving Inhabited

/-- An element. -/
structure Element where
  name : Name
  attributes : List Attribute
  content : List Node
  deriving Inhabited

mutual

/-- Whether two nodes are the same. -/
def Node.decideEq : (a b : Node) → Decidable (a = b)
  | .text s, .text t =>
    decidable_of_decidable_of_iff (p := s = t) (by rw [Node.text.injEq])
  | .text _, .element .. => .isFalse nofun
  | .element .., .text _ => .isFalse nofun
  | .element name as content, .element name' as' content' =>
    have := Node.decideEqAll content content'
    decidable_of_decidable_of_iff (p := name = name' ∧ as = as' ∧ content = content')
      (by rw [Node.element.injEq])

/-- Whether two contents are the same. -/
def Node.decideEqAll : (as bs : List Node) → Decidable (as = bs)
  | [], [] => .isTrue rfl
  | [], _ :: _ => .isFalse nofun
  | _ :: _, [] => .isFalse nofun
  | a :: as, b :: bs =>
    have := Node.decideEq a b
    have := Node.decideEqAll as bs
    decidable_of_decidable_of_iff (p := a = b ∧ as = bs) (by rw [List.cons.injEq])

end

instance : DecidableEq Node := Node.decideEq

deriving instance DecidableEq for Element

/-- A node that is an element. -/
def Node.element? : Node → Option Element
  | text _ => none
  | element name attributes content => some ⟨name, attributes, content⟩

/-- An element as a node. -/
def Element.node (e : Element) : Node := .element e.name e.attributes e.content

/-- The text of a content before its first element. -/
def leadingTextOf : List Node → String
  | .text s :: rest => s ++ leadingTextOf rest
  | _ => ""

/-- A run of text before a content, joined with the run that the content starts with. -/
def consText (text : List Char) (content : List Node) : List Node :=
  if text.isEmpty then content
  else match content with
    | .text s :: rest => .text (String.ofList text ++ s) :: rest
    | content => .text (String.ofList text) :: content

/-- Two contents, one after the other. A run of text at the end of the first is
    joined with one at the start of the second. -/
def joinNodes : List Node → List Node → List Node
  | [], after => after
  | [.text s], after => consText s.toList after
  | node :: nodes, after => node :: joinNodes nodes after

namespace Element

variable (e : Element)

/-- The elements of the content of an element. -/
def children : List Element := e.content.filterMap Node.element?

/-- The text before the first child. -/
def leadingText : String := leadingTextOf e.content

/-- The value of an attribute with a plain name. -/
def attribute? (base : String) : Option String :=
  (e.attributes.find? fun a => a.name == Name.plain base).map (·.value)

/-- The children with a name. -/
def childrenNamed (name : Name) : List Element :=
  e.children.filter fun child => child.name == name

end Element

theorem leadingTextOf_consText (text : List Char) (content : List Node) :
    leadingTextOf (consText text content) = String.ofList text ++ leadingTextOf content := by
  unfold consText
  split
  · rename_i h
    simp_all [List.isEmpty_iff]
  · split
    · simp [leadingTextOf, String.append_assoc]
    · rfl

end JavaBuild.Xml
