import JavaBuild.Artifact
import JavaBuild.Path

/-!
# Minimal project object models

The smallest project object model that is valid for an artifact
(`minimalPom`), and where it belongs in a local repository (`pomPath`): below
the directories of the parts of the group, the id and the version.
-/

namespace JavaBuild.Pom

/-- A character in the text of an element. -/
def escapeChar (c : Char) : List Char :=
  if c = '&' then "&amp;".toList
  else if c = '<' then "&lt;".toList
  else if c = '>' then "&gt;".toList
  else [c]

/-- A text as the content of an element. -/
def escape (s : String) : String := String.ofList (s.toList.flatMap escapeChar)

/-- An element with a text, on a line. -/
def elementLine (name text : String) : String := s!"  <{name}>{escape text}</{name}>\n"

/-- The minimal project object model of an artifact. -/
def minimalPom (a : Artifact) : String :=
  "<project>\n" ++ elementLine "modelVersion" "4.0.0" ++ elementLine "groupId" a.group ++
    elementLine "artifactId" a.id ++ elementLine "version" a.version ++ "</project>\n"

/-- The name of the project object model of an artifact. -/
def pomName (a : Artifact) : String := a.id ++ "-" ++ a.version ++ ".pom"

/-- The parts of the group of an artifact, between its dots. -/
def groupParts (a : Artifact) : List String := (a.group.toList.splitOn '.').map String.ofList

/-- The names below a repository that lead to the project object model of an
    artifact. -/
def pomSteps (a : Artifact) : List String := groupParts a ++ [a.id, a.version, pomName a]

/-- The place of the project object model of an artifact in a repository. -/
def pomPath (repository : Path) (a : Artifact) : Path :=
  (pomSteps a).foldl (fun p name => p.join (.ofString name)) repository

end JavaBuild.Pom
