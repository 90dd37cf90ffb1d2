import JavaBuild.Pom.Writer
import JavaBuild.Work

/-!
# Local repositories

A local repository is a directory with project object models at their places
(`Pom.pomPath`). `addPom` writes a minimal one where there is none; `addEscapedPom` does so
also if there are lone surrogates in the texts of the artifact.
-/

namespace JavaBuild.Pom

/-- The local repository of the user. -/
def defaultRepository (w : Workspace) : Path :=
  ⟨.absolute, w.home ++ [".m2", "repository"]⟩

/-- Write a minimal project object model for an artifact, unless there is one.
    Tells whether it was written. -/
def addEscapedPom (escapes : Text.Escapes) (repository : Path) (a : Artifact) : Work Bool := do
  let place := pomPath repository a
  if ← Work.pathExists place then return false
  Work.makeDirectories place.parent
  Work.writeEscaped escapes place (minimalPom a)
  return true

/-- Do so for an artifact whose texts are Unicode. -/
def addPom (repository : Path) (a : Artifact) : Work Bool :=
  addEscapedPom .empty repository a

theorem addPom_eq (repository : Path) (a : Artifact) : addPom repository a = do
    if ← Work.pathExists (pomPath repository a) then return false
    Work.makeDirectories (pomPath repository a).parent
    Work.writeText (pomPath repository a) (minimalPom a)
    return true := by
  simp only [addPom, addEscapedPom, Work.writeEscaped_empty]

end JavaBuild.Pom
