import JavaBuild.Entry

/-!
# The dependency tree

A resolved dependency list is shown as a tree of two levels: each entry's
selected artifact, and indented below it the alternates of a group.
-/

namespace JavaBuild

/-- The lines of the artifacts of one entry. -/
def memberLines : List Artifact → List String
  | [] => []
  | selected :: alternates =>
    (" + " ++ selected.shortName) :: alternates.map fun a => "   + " ++ a.shortName

/-- The lines of the tree of a dependency list. -/
def treeLines (entries : List Value) : Except EntryError (List String) :=
  (entries.mapM fun (e : Value) => e.members.map memberLines).map List.flatten

end JavaBuild
