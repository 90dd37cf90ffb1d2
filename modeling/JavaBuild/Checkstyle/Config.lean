import JavaBuild.Pattern.Match
import JavaBuild.Work

/-!
# Configurations of Checkstyle runs

A `Config` says where Java sources are, which of their classes are checked and
by which rules, where reports go, and how many violations are too many.

Classes are chosen by patterns. A pattern that is handed in as a text is
compiled when it is added (`Config.addIncludes`, `Config.addExcludes`), and a call with a
text that is no pattern adds nothing. A value that is no text is kept as it is
(`ClassPattern.stray`), and fails only when it is searched for. A configuration that is
in use is changed in its place (`PatternList.add`).
-/

namespace JavaBuild.Checkstyle

/-- What class names are chosen by. -/
inductive ClassPattern where
  | compiled (p : Pattern)
  /-- A value that is no pattern. -/
  | stray (v : Value)

/-- A class pattern as it is handed in. -/
inductive GivenPattern where
  | compiled (p : Pattern)
  | value (v : Value)

/-- The failure of a text that is no pattern. -/
def patternFailure (text : String) : Pattern.PatternError → Failure
  | .malformed fault left => .checkstyle (.badPattern text fault left)
  | .tooManyRepetitions => .infinite
  | .tooLong digits => .number text (.tooLong digits)
  | .conflictingAlphabets => .conflictingAlphabets

/-- The class pattern that is handed in. -/
def GivenPattern.compile : GivenPattern → Except Failure ClassPattern
  | compiled p => .ok (.compiled p)
  | value (.text s) => ((Pattern.ofString s false).map .compiled).mapError (patternFailure s)
  | value v => .ok (.stray v)

/-- The version of Checkstyle that is expected. -/
def expectedVersion : String := "5.0"

/-- How Checkstyle is run, and where. -/
structure Config where
  /-- The directory of the reports to be read by people. -/
  reportDir : Path := .ofString "reports/checkstyle"
  /-- The report that Checkstyle writes. -/
  dataFile : Path := .ofString "reports/checkstyle.data"
  /-- The rules to check by, which a run cannot do without. -/
  rules : Option Path := none
  /-- The stylesheet of the report, if it is not the built-in summary. -/
  style : Option Path := none
  /-- Whether too many violations are a failure. -/
  failsOnViolation : Bool := true
  maxErrors : Int := 0
  maxWarnings : Int := 0
  /-- The directories of the sources. -/
  sources : List Path := []
  /-- A class is checked if one of these occurs in its name, or there are none, … -/
  includes : List ClassPattern := []
  /-- … and none of these does. -/
  excludes : List ClassPattern := []
  /-- Where the classes of Checkstyle are. -/
  classpath : List Path := []
  /-- The version of Checkstyle on the class path. -/
  version : String := expectedVersion

namespace Config

variable (c : Config)

/-- The configuration with further classes to be checked. -/
def addIncludes (patterns : List GivenPattern) : Except Failure Config :=
  (patterns.mapM GivenPattern.compile).map fun ps => { c with includes := c.includes ++ ps }

/-- The configuration with further classes not to be checked. -/
def addExcludes (patterns : List GivenPattern) : Except Failure Config :=
  (patterns.mapM GivenPattern.compile).map fun ps => { c with excludes := c.excludes ++ ps }

/-- The place of a report, or of all reports, from the root. -/
def reportTo (w : Workspace) (name : Option String) : Except FileError Path :=
  match name with
  | none | some "" => w.resolve c.reportDir
  | some name => w.resolve (c.reportDir.join (.ofString name))

theorem reportTo_none (w : Workspace) : c.reportTo w none = w.resolve c.reportDir := rfl

/-- The name of the report as a page. -/
def pageName : String := "checkstyle-report.html"

/-- The place of the report as a page. -/
def page (w : Workspace) : Except FileError Path := c.reportTo w (some pageName)

end Config

/-- A change of a configuration in its place. A failure leaves the configuration as it is
    at that point. -/
abbrev Change := ExceptT Failure (StateM Config)

/-- The lists of class patterns in a configuration. -/
inductive PatternList where
  | includes
  | excludes
  deriving DecidableEq

namespace PatternList

/-- The configuration with further class patterns in a list. -/
def extend (c : Config) (ps : List ClassPattern) : PatternList → Config
  | includes => { c with includes := c.includes ++ ps }
  | excludes => { c with excludes := c.excludes ++ ps }

/-- Compile class patterns and add them to a list. -/
def add (list : PatternList) (patterns : List GivenPattern) : Change Unit := do
  let ps ← patterns.mapM fun p => MonadExcept.ofExcept p.compile
  modify fun c => list.extend c ps

end PatternList

end JavaBuild.Checkstyle
