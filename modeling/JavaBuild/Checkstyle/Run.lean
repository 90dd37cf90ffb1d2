import JavaBuild.Checkstyle.Command
import JavaBuild.Checkstyle.Result
import JavaBuild.Checkstyle.Source
import JavaBuild.Checkstyle.Summary
import JavaBuild.Work

/-!
# Running Checkstyle

`Config.createReport` runs Checkstyle on the chosen sources and reads the report
it writes. A report left from an earlier run is removed first, so that it cannot
pass for the one of this run. If no source is chosen, an empty report is written
without running anything. `Config.createPage` makes a page of a report, either by
a stylesheet or as a summary, and writes it only once it is complete;
`Config.createEscapedPage` does so also if there are lone surrogates in its texts.
`Config.checkLimits` tells whether there are more violations than allowed, and
`Config.clean` removes all reports.

Checkstyle itself and stylesheets are the business of other programs. What they do
is not known here: it is given by a `Runner`, which tells what running a command
comes to, and an `Engine`, which tells what making a page by a stylesheet comes to.
-/

namespace JavaBuild.Checkstyle

/-- What running a command comes to. Either way it has written this report or none. -/
inductive Outcome where
  | ended (report : Option ByteArray) (status : Int) (errors : String)
  /-- The command has not been run, or not to its end. -/
  | failed (report : Option ByteArray) (f : Failure)

/-- The outcome for a command that cannot be started. -/
def Outcome.notStarted (e : OsError) : Outcome := .failed none (.file (.os e))

/-- What runs commands. -/
abbrev Runner := List String → Outcome

/-- What making a page by a stylesheet comes to. -/
inductive Rendering where
  | page (content : String)
  /-- The report or the stylesheet cannot be read, or there is a fault in the stylesheet. -/
  | refused
  | failed (f : Failure)

/-- What makes a page of a report by a stylesheet. The files are looked up by the engine,
    and are those in the tree afterwards. -/
abbrev Engine := Workspace → (data style : Path) → Rendering × FileTree

/-- The programs that a run relies on. -/
structure Tools where
  runner : Runner
  engine : Engine

/-- Read the result in a report. -/
def loadReport (data : Path) : Work Result := do
  match (← get).workspace.readFile data with
  | .ok bytes => Work.ofExcept id (Result.ofBytes data bytes)
  | .error (.os e) => throw (.checkstyle (.badReport data (.unreadable e)))
  | .error e => throw (.file e)

/-- The report of a version of Checkstyle that has checked nothing. -/
def emptyReport (version : String) : String :=
  "<?xml version=\"1.0\" encoding=\"UTF-8\"?>\n" ++
    s!"<checkstyle version=\"{escape version}\">\n</checkstyle>\n"

/-- The failure of a run whose command has failed. Of an error of the system the user is told. -/
def runFailure : Failure → Failure
  | .file (.os e) => .checkstyle (.notStarted e)
  | f => f

/-- The content of a page that an engine was to make. An error of the system counts as a
    page that cannot be made. -/
def Rendering.content (data style : Path) : Rendering → Except Failure String
  | page content => .ok content
  | refused | failed (.file (.os _)) => .error (.checkstyle (.notRendered data style))
  | failed f => .error f

/-- Make a page of a report by a stylesheet. -/
def renderPage (engine : Engine) (data style : Path) : Work String := do
  let (rendering, files) := engine (← get).workspace data style
  modify fun s => { s with workspace := s.workspace.withFiles files }
  Work.ofExcept id (rendering.content data style)

namespace Config

variable (c : Config)

/-- The directory of the reports, from the root. -/
def reportsHere : Work Path := Work.inspect fun w => c.reportTo w none

/-- Write the report of a command, if it has one. -/
def writeReport : Option ByteArray → Work Unit
  | none => pure ()
  | some bytes => do
    match (← get).workspace.writeFile c.dataFile bytes with
    | .ok workspace => modify fun s => { s with workspace }
    | .error (.os e) => throw (.checkstyle (.notStarted e))
    | .error e => throw (.file e)

/-- Run the command that checks some sources, and read its report. -/
def runOn (runner : Runner) (sources : List Path) : Work Result := do
  let command ← Work.ofExcept id (c.command sources)
  Work.start command
  match runner command with
  | .failed report f =>
    c.writeReport report
    throw (runFailure f)
  | .ended report status errors =>
    c.writeReport report
    if ← Work.pathExists c.dataFile then loadReport c.dataFile
    else throw (.checkstyle (.noReport c.dataFile status (Text.trimmed errors)))

/-- Write the report of nothing. -/
def reportNothing : Work Result := do
  Work.warn "WARNING: No Java sources selected for checkstyle"
  Work.writeText c.dataFile (emptyReport c.version)
  return {}

/-- Make the directory of the reports. -/
def makeReportDir : Work Unit := do
  Work.makeDirectories (← c.reportsHere)

/-- Make the directory for the report, and remove the report of an earlier run. -/
def removeOldReport : Work Unit := do
  Work.makeDirectories c.dataFile.parent
  if ← Work.pathExists c.dataFile then Work.change fun w => w.removeFile c.dataFile

/-- Make room for the reports of this run. -/
def prepare : Work Unit := do
  c.makeReportDir
  c.removeOldReport

/-- Choose the sources, and report on them. -/
def report (runner : Runner) : Work Result := do
  Work.print s!"Creating checkstyle xml report {c.dataFile}"
  let sources ← Work.ofExcept id (c.selectSources (← get).workspace)
  if sources.isEmpty then c.reportNothing else c.runOn runner sources

/-- Run Checkstyle on the chosen sources, and read its report. -/
def createReport (runner : Runner) : Work Result := do
  c.prepare
  c.report runner

/-- The page that shows a report: by the stylesheet, or as a summary of the
    result, which is read from the report unless it is given. -/
def pageContent (engine : Engine) (result : Option Result) : Work String :=
  match c.style, result with
  | some style, _ => renderPage engine c.dataFile style
  | none, some result => Work.ofExcept id result.page
  | none, none => do Work.ofExcept id (← loadReport c.dataFile).page

/-- Write the page that shows a report, and give its place. -/
def createEscapedPage (escapes : Text.Escapes) (engine : Engine) (result : Option Result) :
    Work Path := do
  let page ← Work.inspect c.page
  Work.print s!"Creating checkstyle html report '{page}'"
  let content ← c.pageContent engine result
  Work.makeDirectories page.parent
  Work.writeEscaped escapes page content
  return page

/-- Do so for a report whose texts are Unicode. -/
def createPage (engine : Engine) (result : Option Result) : Work Path :=
  c.createEscapedPage .empty engine result

theorem createPage_eq (engine : Engine) (result : Option Result) :
    c.createPage engine result = do
      let page ← Work.inspect c.page
      Work.print s!"Creating checkstyle html report '{page}'"
      let content ← c.pageContent engine result
      Work.makeDirectories page.parent
      Work.writeText page content
      return page := by
  simp only [createPage, createEscapedPage, Work.writeEscaped_empty]

/-- Whether there are more violations than allowed. -/
def isExceededBy (r : Result) : Bool :=
  c.maxErrors < r.errors || c.maxWarnings < r.warnings

/-- Fail if there are more violations than allowed, or only warn if the
    configuration is lenient. -/
def checkLimits (r : Result) : Work Unit := do
  if c.isExceededBy r then
    let failure := Failure.violations (← c.reportsHere)
    if c.failsOnViolation then throw failure else Work.warn s!"WARNING: {failure.message}"

/-- Remove all reports. -/
def clean : Work Unit := do
  let reports ← c.reportsHere
  if ← Work.pathExists reports then Work.change fun w => w.removeTree reports
  Work.removeFile c.dataFile

end Config

end JavaBuild.Checkstyle
