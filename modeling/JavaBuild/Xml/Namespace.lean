import JavaBuild.Xml.Error
import JavaBuild.Xml.Node

/-!
# Namespaces

Attributes named `xmlns` or `xmlns:label` bind the empty label or `label` to a
namespace, for the element and its content. `Bindings.bind` refuses the bindings
that are not allowed; `Bindings.elementName` and `Bindings.attributeName` give
the qualified names that written names stand for. Attribute names without a
label are in no namespace.
-/

namespace JavaBuild.Xml

/-- The namespaces that labels are bound to, the innermost binding first. The
    empty label is that of elements without one. -/
abbrev Bindings := List (List Char × List Char)

/-- A namespace of the standards of the web. -/
def standardSpace (name : String) : String := "http://www.w3.org/" ++ name

/-- The namespace of the label `xml`. -/
def xmlSpace : List Char := (standardSpace "XML/1998/namespace").toList

/-- The namespace of the attributes that bind. -/
def xmlnsSpace : List Char := (standardSpace "2000/xmlns/").toList

/-- The bindings around the root. -/
def Bindings.initial : Bindings := [("xml".toList, xmlSpace)]

/-- A written name as its label, if it has one, and the rest. -/
def splitLabel (name : List Char) : Option (List Char) × List Char :=
  match name.dropWhile (· != ':') with
  | ':' :: base => (some (name.takeWhile (· != ':')), base)
  | _ => (none, name)

/-- The label that an attribute binds, if it is one that binds. -/
def boundLabel? (name : List Char) : Option (List Char) :=
  match splitLabel name with
  | (none, base) => if base = "xmlns".toList then some [] else none
  | (some label, base) => if label = "xmlns".toList then some base else none

/-- Bind a label to a namespace. -/
def Bindings.bind (bindings : Bindings) (label space : List Char) : Except XmlFault Bindings :=
  if space = [] ∧ label ≠ [] then .error .undeclaredPrefix
  else if label = "xmlns".toList then .error .reservedXmlnsPrefix
  else if space.contains '}' then .error .syntaxError
  else if label = "xml".toList ∧ space ≠ xmlSpace then .error .reservedXmlPrefix
  else if label ≠ "xml".toList ∧ space = xmlSpace then .error .reservedNamespace
  else if space = xmlnsSpace then .error .reservedNamespace
  else .ok ((label, space) :: bindings)

/-- The namespace of a label. -/
def Bindings.space? (bindings : Bindings) (label : List Char) : Option String :=
  (bindings.lookup label).bind fun space =>
    if space.isEmpty then none else some (String.ofList space)

/-- The qualified name with a label, which has to be bound. -/
def Bindings.labelled (bindings : Bindings) (label base : List Char) : Except XmlFault Name :=
  match bindings.space? label with
  | none => .error .unboundPrefix
  | some space => .ok ⟨some space, String.ofList base⟩

/-- The qualified name of an element. -/
def Bindings.elementName (bindings : Bindings) (name : List Char) : Except XmlFault Name :=
  match splitLabel name with
  | (some label, base) => bindings.labelled label base
  | (none, base) => .ok ⟨bindings.space? [], String.ofList base⟩

/-- The qualified name of an attribute. -/
def Bindings.attributeName (bindings : Bindings) (name : List Char) : Except XmlFault Name :=
  match splitLabel name with
  | (some label, base) => bindings.labelled label base
  | (none, base) => .ok (.plain (String.ofList base))

end JavaBuild.Xml
