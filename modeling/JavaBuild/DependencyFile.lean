import JavaBuild.DependencyList
import JavaBuild.Pom.Artifacts
import JavaBuild.Pom.Reader
import JavaBuild.Work
import JavaBuild.Xml.Document

/-!
# Files of dependencies

The dependencies of a project are read from a dependency list or from its
project object model; a file whose name ends in `.xml` is the latter.
-/

namespace JavaBuild

/-- The entries in the bytes of a dependency list. -/
def entriesOfList (file : Path) (bytes : ByteArray) : Except Failure (List Value) :=
  match Text.decodeUtf8 bytes with
  | .error e => .error (.listEncoding file e)
  | .ok text => (DependencyList.parse text).mapError fun (line, e) => .listLine file line e

/-- Read a dependency list. -/
def loadList (file : Path) : Work (List Value) := do
  Work.ofExcept id (entriesOfList file (← Work.readFile file))

/-- The failure of reading a project object model. -/
def Pom.failure (file : Path) : Xml.XmlError → Failure
  | .malformed fault position => .pom file fault position
  | .encoding name e => .xmlEncoding name e

/-- Read a project object model. -/
def loadProject (file : Path) : Work PomProject := do
  let root ← Work.ofExcept (Pom.failure file) (Xml.readDocument (← Work.readFile file))
  return Pom.readProject root

/-- The artifacts of a project, telling what is left out. -/
def tellArtifacts (project : PomProject) (selection : Pom.Selection) :
    Work (List Pom.PomArtifact) := do
  let (artifacts, warnings) := Pom.artifacts project selection
  warnings.forM Work.warn
  return artifacts

/-- The ending of the names of project object models. -/
def projectSuffix : String := ".xml"

/-- Read the entries in a file. No group of an artifact is missing in a project that has been
    read, as all of its properties have values. -/
def loadEntries (file : Path) (selection : Pom.Selection) : Work (List Value) :=
  if file.suffix = projectSuffix then do
    return ((← tellArtifacts (← loadProject file) selection).filterMap (·.artifact?)).map .artifact
  else loadList file

end JavaBuild
