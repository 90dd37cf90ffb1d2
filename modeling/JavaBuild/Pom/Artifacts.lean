import JavaBuild.Artifact
import JavaBuild.Pom.Property

/-!
# The artifacts of a project

The direct dependencies of a project stand for artifacts, once their groups and
versions are resolved. A dependency in a scope that is not asked for, or an
optional one if these are not asked for, is left out; one without a version that
can be resolved is left out with a warning.
-/

namespace JavaBuild.Pom

/-- Which dependencies are asked for. -/
structure Selection where
  /-- The scopes that count. If there are none, all do. -/
  scopes : List String := []
  withOptional : Bool := true
  deriving DecidableEq, Repr

/-- Whether a dependency is asked for. -/
def Selection.asksFor (s : Selection) (d : PomDependency) : Bool :=
  (s.scopes.isEmpty || s.scopes.contains d.scope) && (s.withOptional || !d.isOptional)

/-- A version that can be used: not empty, and without a reference. -/
def usableVersion? (version : Option String) : Option String :=
  version.filter fun v => v != "" && !holdsReference v.toList

/-- What a dependency stands for: an artifact, except that its group may be missing. -/
structure PomArtifact where
  /-- The group, unless it is that of a property without a value. -/
  group : Option String
  id : String
  version : String
  type : String := "jar"
  classifier : Option String := none
  deriving DecidableEq, Repr

/-- The artifact, if its group is not missing. -/
def PomArtifact.artifact? (a : PomArtifact) : Option Artifact :=
  a.group.map fun group => ⟨group, a.id, a.version, a.type, a.classifier⟩

/-- What a dependency stands for, or a warning. -/
def artifactOf (properties : Properties) (d : PomDependency) : Except String PomArtifact :=
  match usableVersion? (resolve properties d.version 0) with
  | none =>
    .error s!"WARNING: {d.groupId}:{d.artifactId} has no resolvable version, skipping"
  | some version => .ok {
      group := resolve properties (some d.groupId) 0
      id := d.artifactId
      version
      type := match d.type with
        | none | some "" => "jar"
        | some type => type
      classifier := d.classifier }

/-- The artifacts of the dependencies that are asked for, and the warnings. -/
def artifacts (project : PomProject) (selection : Selection) : List PomArtifact × List String :=
  let found := (project.dependencies.filter selection.asksFor).map
    (artifactOf (allProperties project))
  (found.filterMap fun r => match r with
      | .ok a => some a
      | .error _ => none,
    found.filterMap fun r => match r with
      | .ok _ => none
      | .error warning => some warning)

end JavaBuild.Pom
