import JavaBuild.Pom.Project
import JavaBuild.Text.Blank
import JavaBuild.Xml.Node

/-!
# Reading project object models

The elements of a project object model are in the Maven namespace or in none.
Where one element is wanted, the first in the namespace counts, and only if there
is none the first without; where all are wanted, those in the namespace come
first. Text counts without the blanks around it, and empty text does not.
-/

namespace JavaBuild.Pom

/-- The namespace of project object models. -/
def mavenSpace : String := "http://maven.apache.org/POM/4.0.0"

/-- A name in the Maven namespace. -/
def mavenName (base : String) : Xml.Name := ⟨some mavenSpace, base⟩

/-- The children of a name, those in the Maven namespace first. -/
def findAll (e : Xml.Element) (base : String) : List Xml.Element :=
  e.childrenNamed (mavenName base) ++ e.childrenNamed (.plain base)

/-- The child of a name. -/
def find? (e : Xml.Element) (base : String) : Option Xml.Element :=
  (findAll e base).head?

/-- The text of a child, without blanks around it, if it is not empty. -/
def text? (e : Xml.Element) (base : String) : Option String :=
  (find? e base).bind fun child =>
    let text := Text.trimmed child.leadingText
    if text = "" then none else some text

/-- Whether a text says yes. -/
def isTrue (s : String) : Bool := s.toLower == "true"

/-- Read a dependency. -/
def readDependency (e : Xml.Element) : PomDependency where
  groupId := (text? e "groupId").getD ""
  artifactId := (text? e "artifactId").getD ""
  version := text? e "version"
  scope := (text? e "scope").getD "compile"
  classifier := text? e "classifier"
  type := text? e "type"
  isOptional := (text? e "optional").any isTrue

/-- Properties with one set, in the place of the one of that name if there is one. -/
def setProperty (properties : Properties) (name value : String) : Properties :=
  if (properties.lookup name).isSome then
    properties.map fun (n, v) => (n, if n = name then some value else v)
  else properties ++ [(name, some value)]

/-- Read properties. Elements without text do not count. -/
def readProperties (e : Xml.Element) : Properties :=
  e.children.foldl (fun properties child =>
    if child.leadingText = "" then properties
    else setProperty properties child.name.base (Text.trimmed child.leadingText)) []

/-- Read a project. Its group and its version may be those of its parent. -/
def readProject (root : Xml.Element) : PomProject where
  groupId := ((text? root "groupId").or ((find? root "parent").bind (text? · "groupId"))).getD ""
  artifactId := (text? root "artifactId").getD ""
  version := (text? root "version").or ((find? root "parent").bind (text? · "version"))
  packaging := (text? root "packaging").getD "jar"
  properties := ((find? root "properties").map readProperties).getD []
  dependencies := ((find? root "dependencies").map fun e =>
    (findAll e "dependency").map readDependency).getD []

end JavaBuild.Pom
