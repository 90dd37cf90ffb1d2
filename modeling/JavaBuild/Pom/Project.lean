/-!
# Projects

A `PomProject` is what a project object model says of a project: its
coordinates, its packaging, named properties, and its direct dependencies.
Versions and groups may be references to properties (`Pom.Property`).
-/

namespace JavaBuild

/-- A direct dependency of a project. -/
structure PomDependency where
  groupId : String
  artifactId : String
  /-- The version as it is written, if it is. -/
  version : Option String := none
  scope : String := "compile"
  classifier : Option String := none
  type : Option String := none
  isOptional : Bool := false
  deriving DecidableEq, Repr, Inhabited

/-- Named properties. A property may be there without a value. -/
abbrev Properties := List (String × Option String)

/-- A project. -/
structure PomProject where
  groupId : String
  artifactId : String
  version : Option String := none
  packaging : String := "jar"
  properties : Properties := []
  dependencies : List PomDependency := []
  deriving DecidableEq, Repr, Inhabited

end JavaBuild
