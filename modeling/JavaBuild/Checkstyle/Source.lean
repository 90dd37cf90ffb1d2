import JavaBuild.Checkstyle.Config

/-!
# Sources to be checked

The sources of a configuration are the Java files below its source directories,
those that are there (`selectSources`). A source's class name follows from its
place (`className`): `de/foo/Bar.java` holds the class `de.foo.Bar`. If there are
patterns, a source is taken only if they choose its class name.
-/

namespace JavaBuild.Checkstyle

/-- The class name of a source that is below a directory. -/
def className (source directory : Path) : Except Failure String :=
  match source.relativeTo? directory with
  | none => .error (.outside source directory)
  | some p => match p.withoutSuffix? with
    | none => .error (.nameless p)
    | some p => .ok (".".intercalate p.parts)

/-- Whether one of the patterns occurs in a class name. A value that is no
    pattern fails, unless a pattern before it occurs. -/
def anyOccurs : List ClassPattern → String → Except Failure Bool
  | [], _ => .ok false
  | .compiled p :: ps, name => if p.occursIn name then .ok true else anyOccurs ps name
  | .stray _ :: _, _ => .error .unsupported

namespace Config

variable (c : Config)

/-- Whether the patterns choose a class. -/
def chooses (name : String) : Except Failure Bool := do
  let included ← if c.includes.isEmpty then .ok true else anyOccurs c.includes name
  if included then (anyOccurs c.excludes name).map (!·) else .ok false

/-- Whether a source in a directory is chosen. Without patterns, all are. -/
def chosenIn (directory source : Path) : Except Failure Bool :=
  if c.includes.isEmpty && c.excludes.isEmpty then .ok true
  else (className source directory).bind c.chooses

/-- The ending of the names of Java files. -/
def javaSuffix : String := ".java"

/-- The chosen sources in a directory, in the order of their paths. -/
def selectIn (w : Workspace) (directory : Path) : Except Failure (List Path) :=
  match w.isDirectory directory with
  | .error e => .error (.file e)
  | .ok false => .ok []
  | .ok true => match w.findSuffixed directory javaSuffix with
    | .error e => .error (.file e)
    | .ok sources => sources.filterM (c.chosenIn directory)

/-- The chosen sources in all directories. -/
def selectSources (w : Workspace) : Except Failure (List Path) :=
  (c.sources.mapM (c.selectIn w)).map List.flatten

end Config

end JavaBuild.Checkstyle
