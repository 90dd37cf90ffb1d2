import JavaBuild.Dictionary
import JavaBuild.Entry

/-!
# Conflicts

An id is in *conflict* if more than one provider supplies it, that is, if the
artifacts of all entries, selected ones and alternates alike, hold two with this
id and different coordinates. `conflicts` gives the ids in conflict in the order
in which they first occur, each with the first artifact of each of its
providers. `analyze` checks all entries first.
-/

namespace JavaBuild

/-- An id with the distinct artifacts that provide it, in first-seen order. -/
structure Conflict where
  id : String
  providers : List Artifact
  deriving DecidableEq, Repr

/-- The providers of an id: the first artifact with these coordinates. -/
abbrev Providers := Dictionary Coordinates Artifact

/-- Count an artifact among the providers of its id. -/
def record (seen : Dictionary String Providers) (a : Artifact) : Dictionary String Providers :=
  seen.update a.id .empty fun providers => providers.setDefault a.coordinates a

/-- The providers of each id. -/
def providersOf (artifacts : List Artifact) : Dictionary String Providers :=
  artifacts.foldl record .empty

/-- The conflict of an id, if it has more than one provider. -/
def conflict? (id : String) (providers : Providers) : Option Conflict :=
  if 1 < providers.entries.length then some ⟨id, providers.values⟩ else none

/-- The conflicts among artifacts. -/
def conflicts (artifacts : List Artifact) : List Conflict :=
  (providersOf artifacts).entries.filterMap fun (id, providers) => conflict? id providers

/-- The artifacts of all entries in order. -/
def artifactsOf (entries : List Value) : Except EntryError (List Artifact) :=
  (entries.mapM Value.members).map List.flatten

/-- The conflicts among the artifacts of entries. -/
def analyze (entries : List Value) : Except EntryError (List Conflict) :=
  (artifactsOf entries).map conflicts

/-- What is reported when there is no conflict. -/
def noConflictsLine : String :=
  "Everything's fine, no transitive dependency is provided by more than one artifact."

/-- One conflict as a line. -/
def Conflict.line (c : Conflict) : String :=
  c.id ++ " is provided by " ++ ", ".intercalate (c.providers.map Artifact.provider)

/-- The report of conflicts: one line for each, or the line that there is none. -/
def reportLines (report : List Conflict) : List String :=
  if report.isEmpty then [noConflictsLine] else report.map Conflict.line

end JavaBuild
