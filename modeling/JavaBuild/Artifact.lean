import JavaBuild.Text.Blank

/-!
# Artifacts

An `Artifact` is a resolved, versioned unit of packaged code. Two artifacts are
the same *provider* if their `coordinates` agree: type and classifier do not
count.

An artifact is written as a *spec*, its fields separated by colons
(`Artifact.spec`), and read from one (`Artifact.ofSpec`). A spec has three, four
or five parts, none of them empty:

* `group:id:version`, for a jar;
* `group:id:type:version`;
* `group:id:type:classifier:version`.
-/

namespace JavaBuild

/-- A resolved, versioned unit of packaged code. -/
structure Artifact where
  group : String
  id : String
  version : String
  type : String := "jar"
  classifier : Option String := none
  deriving DecidableEq, Repr, Inhabited

/-- What identifies the provider of a package. -/
structure Coordinates where
  group : String
  id : String
  version : String
  deriving DecidableEq, Repr

namespace Artifact

/-- The coordinates of an artifact. -/
def coordinates (a : Artifact) : Coordinates :=
  ⟨a.group, a.id, a.version⟩

/-- The full spec of an artifact. The type is always written, an empty
    classifier is not. -/
def spec (a : Artifact) : String :=
  let classifier := match a.classifier with
    | none | some "" => []
    | some c => [c]
  ":".intercalate ([a.group, a.id, a.type] ++ classifier ++ [a.version])

/-- The short form `id:version`. -/
def shortName (a : Artifact) : String :=
  a.id ++ ":" ++ a.version

/-- The form `group:id:version` that names a provider. -/
def provider (a : Artifact) : String :=
  a.group ++ ":" ++ a.id ++ ":" ++ a.version

/-- The parts of a spec, blanks around it apart. -/
def specParts (s : String) : List String :=
  ((Text.trim s.toList).splitOn ':').map String.ofList

/-- Read a spec. -/
def ofSpec? (s : String) : Option Artifact :=
  let parts := specParts s
  if parts.any (· == "") then none
  else match parts with
    | [group, id, version] => some { group, id, version }
    | [group, id, type, version] => some { group, id, version, type }
    | [group, id, type, classifier, version] =>
      some { group, id, version, type, classifier := some classifier }
    | _ => none

example : ofSpec? " g:a:jar:tests:1 " =
    some { group := "g", id := "a", version := "1", classifier := some "tests" } := by
  decide +kernel
example : ofSpec? "g:a::1" = none := by decide +kernel

end Artifact

end JavaBuild
