import JavaBuild.Value

/-!
# Dependency entries

An *entry* of a resolved dependency list is a value that is an artifact or a
group of providers. `Value.toEntry` makes an entry of a loosely typed value, by
reading specs and by making a group of a list, and `Value.members` gives the
artifacts that an entry carries, the selected one first.

The members of a group handed in are checked by `members` only: `toEntry` passes
a group as it is.
-/

namespace JavaBuild

/-- Why a value is no dependency entry. -/
inductive EntryError where
  | missing
  | noMembers
  /-- A group has a member that is not an artifact. -/
  | strayMember (member : Value)
  | unsupported (value : Value)
  /-- A value where a spec was expected. -/
  | notSpec (value : Value)
  | malformedSpec (spec : String)

/-- The message of an entry error. -/
def EntryError.message : EntryError → String
  | .missing => "Dependency entry is None"
  | .noMembers => "Provider group is empty"
  | .strayMember member => s!"Provider group member {member.literal} is not an artifact"
  | .unsupported value =>
    s!"Unsupported dependency entry {value.literal}, expected an artifact or provider group"
  | .notSpec value => s!"Artifact spec must be a string, got {value.literal}"
  | .malformedSpec spec =>
    s!"Invalid artifact spec '{spec}', expected group:id[:type[:classifier]]:version"

/-- Read a spec, or say that it is malformed. -/
def Artifact.ofSpec (s : String) : Except EntryError Artifact :=
  match Artifact.ofSpec? s with
  | some a => .ok a
  | none => .error (.malformedSpec s)

namespace Value

/-- Read a value as a spec. -/
def parseSpec : Value → Except EntryError Artifact
  | text s => Artifact.ofSpec s
  | v => .error (.notSpec v)

/-- A value as an artifact, which a spec is read as. -/
def toArtifact : Value → Except EntryError Artifact
  | artifact a => .ok a
  | v => v.parseSpec

/-- The group of the artifacts that the values of a list stand for. -/
def toProviders (items : List Value) : Except EntryError Value :=
  if items.isEmpty then .error .noMembers
  else (items.mapM toArtifact).map fun as => providers (as.map artifact)

/-- A value as an entry. -/
def toEntry : Value → Except EntryError Value
  | null => .error .missing
  | providers members => .ok (providers members)
  | list items => toProviders items
  | tuple items => toProviders items
  | v => v.toArtifact.map artifact

/-- Several values as entries. The first that is none counts. -/
def toEntries (vs : List Value) : Except EntryError (List Value) :=
  vs.mapM toEntry

/-- A member of a group as an artifact. -/
def asMember : Value → Except EntryError Artifact
  | artifact a => .ok a
  | v => .error (.strayMember v)

/-- The artifacts that an entry carries, the selected one first. -/
def members : Value → Except EntryError (List Artifact)
  | null => .error .missing
  | artifact a => .ok [a]
  | providers [] => .error .noMembers
  | providers vs => vs.mapM asMember
  | v => .error (.unsupported v)

end Value

end JavaBuild
