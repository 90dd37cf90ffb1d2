import JavaBuild.CommandLine.Arguments
import JavaBuild.Pom.Artifacts
import JavaBuild.Settings

/-!
# Invocations

An `Invocation` is what the program is asked to do: a task with its parameters,
and the settings file to go by. `Invocation.parse` reads it from the arguments of
the program, the first operand of which is the name of a task. Arguments that
neither the program nor the task knows are told of by the program.
-/

namespace JavaBuild.CommandLine

/-- What is done with the reports of Checkstyle. -/
inductive ReportTask where
  | xml
  | html
  | check
  | clean
  deriving DecidableEq, Repr

/-- The name of a report task. -/
def ReportTask.name : ReportTask → String
  | xml => "xml"
  | html => "html"
  | check => "check"
  | clean => "clean"

/-- All report tasks. -/
def ReportTask.all : List ReportTask := [xml, html, check, clean]

/-- A task of the program. -/
inductive Request where
  /-- Tell the conflicts among the dependencies in a file. -/
  | conflicts (file : Path) (selection : Pom.Selection)
  /-- Show the dependencies in a file as a tree. -/
  | tree (file : Path) (selection : Pom.Selection)
  /-- Write project object models into a repository. -/
  | poms (specs : List String) (repository : Option Path)
  | reports (task : ReportTask) (projects : List Path)
  deriving DecidableEq, Repr

/-- What the program is asked to do. -/
structure Invocation where
  settings : Path := defaultSettingsFile
  request : Request
  deriving DecidableEq, Repr

/-- Asks for help. -/
def helpOption : CommandOption := ⟨["-h", "--help"], .help⟩

/-- Names the settings file. -/
def settingsOption : CommandOption := ⟨["--settings", "-s"], .value⟩

/-- Names a scope. -/
def scopeOption : CommandOption := ⟨["--scope"], .value⟩

/-- Leaves out optional dependencies. -/
def skipOption : CommandOption := ⟨["--skip-optional"], .flag⟩

/-- Names a repository. -/
def repositoryOption : CommandOption := ⟨["--repository", "-r"], .value⟩

/-- Names a project directory. -/
def projectOption : CommandOption := ⟨["--project", "-p"], .value⟩

/-- The program. -/
def program : Command where
  program := "buildtools"
  usage := "usage: buildtools [-h] [--settings SETTINGS]\n" ++
    "                  \x7bcheckdeps,deptree,pom,checkstyle\x7d ...\n"
  help := "Dependency inspection helpers and Checkstyle reports\n\n" ++
    "positional arguments:\n" ++
    "  \x7bcheckdeps,deptree,pom,checkstyle\x7d\n" ++
    "    checkdeps           Report ids provided by more than one artifact\n" ++
    "    deptree             Print the dependency list as a tree\n" ++
    "    pom                 Write minimal POMs into a local repository\n" ++
    "    checkstyle          Checkstyle reports\n\n" ++
    "options:\n" ++
    "  -h, --help            show this help message and exit\n" ++
    "  --settings SETTINGS, -s SETTINGS\n" ++
    "                        Build settings file (default: build.toml)\n"
  options := [helpOption, settingsOption]
  operand := "command"
  arity := .rest
  choices := ["checkdeps", "deptree", "pom", "checkstyle"]

/-- A task on the dependencies in a file. -/
def dependencyCommand (name : String) : Command where
  program := s!"buildtools {name}"
  usage := s!"usage: buildtools {name} [-h] [--scope SCOPE] [--skip-optional] file\n"
  help := "positional arguments:\n" ++
    "  file             Dependency list or pom.xml\n\n" ++
    "options:\n" ++
    "  -h, --help       show this help message and exit\n" ++
    "  --scope SCOPE    Only pom.xml dependencies in this scope (repeatable)\n" ++
    "  --skip-optional  Leave out pom.xml dependencies marked optional\n"
  options := [helpOption, scopeOption, skipOption]
  operand := "file"
  arity := .one

/-- The task that writes project object models. -/
def pomCommand : Command where
  program := "buildtools pom"
  usage := "usage: buildtools pom [-h] [--repository REPOSITORY] specs [specs ...]\n"
  help := "positional arguments:\n" ++
    "  specs                 Artifact specs (group:id[:type[:classifier]]:version)\n\n" ++
    "options:\n" ++
    "  -h, --help            show this help message and exit\n" ++
    "  --repository REPOSITORY, -r REPOSITORY\n" ++
    "                        Local repository root (default: ~/.m2/repository)\n"
  options := [helpOption, repositoryOption]
  operand := "specs"
  arity := .several

/-- The task on the reports of Checkstyle. -/
def reportCommand : Command where
  program := "buildtools checkstyle"
  usage := "usage: buildtools checkstyle [-h] [--project PROJECT] \x7bxml,html,check,clean\x7d\n"
  help := "positional arguments:\n" ++
    "  \x7bxml,html,check,clean\x7d\n" ++
    "                        'xml'/'html' create reports, 'check' fails on too many\n" ++
    "                        violations, 'clean' removes reports\n\n" ++
    "options:\n" ++
    "  -h, --help            show this help message and exit\n" ++
    "  --project PROJECT, -p PROJECT\n" ++
    "                        Project directory to include (repeatable)\n"
  options := [helpOption, projectOption]
  operand := "task"
  arity := .one
  choices := ReportTask.all.map ReportTask.name

namespace Parsed

variable (p : Parsed)

/-- The first operand. -/
def operand : String := (p.operands.getD []).headD ""

/-- The dependencies that are asked for. -/
def selection : Pom.Selection where
  scopes := p.valuesOf scopeOption
  withOptional := !p.has skipOption

/-- The task on reports that is asked for. -/
def reportTask : ReportTask :=
  (ReportTask.all.find? fun task => task.name == p.operand).getD .xml

end Parsed

/-- Read the arguments of a task, and give those without a meaning. -/
def Request.parse (name : String) (arguments : List String) :
    Except Stop (Request × List String) := do
  if name = "checkdeps" then
    let p ← (dependencyCommand name).parse arguments
    return (.conflicts (.ofString p.operand) p.selection, p.extra)
  else if name = "deptree" then
    let p ← (dependencyCommand name).parse arguments
    return (.tree (.ofString p.operand) p.selection, p.extra)
  else if name = "pom" then
    let p ← pomCommand.parse arguments
    return (.poms (p.operands.getD []) ((p.valueOf? repositoryOption).map .ofString), p.extra)
  else
    let p ← reportCommand.parse arguments
    return (.reports p.reportTask ((p.valuesOf projectOption).map .ofString), p.extra)

/-- Read the arguments of the program. -/
def Invocation.parse (arguments : List String) : Except Stop Invocation := do
  let p ← program.parse arguments
  let (request, extra) ← Request.parse p.operand (p.operands.getD []).tail
  if !(p.extra ++ extra).isEmpty then throw (.fault program (.unrecognized (p.extra ++ extra)))
  let settings := (p.valueOf? settingsOption).map Path.ofString
  return { settings := settings.getD defaultSettingsFile, request }

end JavaBuild.CommandLine
