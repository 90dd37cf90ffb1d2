import JavaBuild.Checkstyle.Aggregate
import JavaBuild.Checkstyle.Run
import JavaBuild.Checkstyle.Settings
import JavaBuild.CommandLine.Invocation
import JavaBuild.Conflict
import JavaBuild.DependencyFile
import JavaBuild.DependencyTree
import JavaBuild.Pom.Repository

/-!
# Carrying out invocations

`Invocation.run` does what the program is asked to do, and gives its exit status.
A failure that can be told to the user is an exit status of one.

Checkstyle runs on the current directory by its settings, or on several project
directories, each by its own settings file.
-/

namespace JavaBuild.CommandLine

open Checkstyle (Config Tools)

/-- Tell the conflicts among entries. -/
def tellConflicts (entries : List Value) : Work (List Conflict) := do
  let report ← Work.ofExcept .entry (analyze entries)
  (reportLines report).forM Work.print
  return report

/-- Show entries as a tree. -/
def showTree (entries : List Value) : Work Unit := do
  (← Work.ofExcept .entry (treeLines entries)).forM Work.print

/-- The name of the settings of Checkstyle. -/
def checkstyleSection : String := "checkstyle"

/-- The configuration of Checkstyle in settings, its paths seen from a directory. -/
def configIn (settings : Toml.Fields) (base : Path) : Work Config :=
  Work.ofExcept id (Config.ofSettings (settingsSection settings checkstyleSection) base)

/-- The configurations of projects, each by the settings file in its directory. -/
def projectConfigs (projects : List Path) : Work (List Config) :=
  projects.mapM fun project => do
    configIn (← loadSettings (project.join defaultSettingsFile)) project

/-- The configuration of a run: that of the current directory, or that of all
    projects if there are any. -/
def runConfig (settings : Toml.Fields) (projects : List Path) : Work Config := do
  let base ← configIn settings .here
  if projects.isEmpty then return base
  else Checkstyle.aggregate (← projectConfigs projects) base

/-- A path with a home directory at its start in the place of `~` or `~user`. -/
def expandHome (w : Workspace) (p : Path) : Except Failure Path :=
  match w.expandHome? p with
  | some p => .ok p
  | none =>
    -- No user can be asked for by a name that holds the NUL character.
    if p.parts.head?.any fun name => name.toList.contains '\x00' then .error (.file .nulInPath)
    else .error .noHome

/-- The repository that settings name, or else that of the user. -/
def repositoryIn (settings : Toml.Fields) (w : Workspace) : Except Failure Path :=
  match Value.field? (settingsSection settings "dependencies") "repository" with
  | none => .ok (Pom.defaultRepository w)
  | some (.text s) => expandHome w (.ofString s)
  | some _ => .error .wrongKind

/-- Write the project object model for a spec, and tell about it. -/
def addPomFor (repository : Path) (spec : String) : Work Unit := do
  let a ← Work.ofExcept .entry (Artifact.ofSpec spec)
  let place := Pom.pomPath repository a
  if ← Pom.addPom repository a then Work.print s!"  ✓ {place}"
  else Work.print s!"  ⏭ {place} (already exists)"

/-- Write project object models for specs, one after the other. -/
def addPoms (settings : Toml.Fields) (repository : Option Path) (specs : List String) :
    Work Unit := do
  let found ← match repository with
    | some p => pure p
    | none => do Work.ofExcept id (repositoryIn settings (← get).workspace)
  specs.forM (addPomFor found)

/-- Remove the reports of the current directory and of projects. -/
def cleanAll (settings : Toml.Fields) (projects : List Path) : Work Unit := do
  let base ← configIn settings .here
  let others ← projectConfigs projects
  (base :: others).forM Config.clean

/-- Do a task on the reports of Checkstyle. -/
def report (tools : Tools) (settings : Toml.Fields) (projects : List Path) :
    ReportTask → Work Unit
  | .xml => do
    let config ← runConfig settings projects
    let _ ← config.createReport tools.runner
  | .html => do
    let config ← runConfig settings projects
    let result ← config.createReport tools.runner
    let _ ← config.createPage tools.engine (some result)
  | .check => do
    let config ← runConfig settings projects
    let result ← config.createReport tools.runner
    config.checkLimits result
    Work.print s!"Checkstyle: {result.errors} errors, {result.warnings} warnings"
  | .clean => cleanAll settings projects

/-- Do a task. -/
def Request.run (tools : Tools) (settings : Toml.Fields) : Request → Work Unit
  | conflicts file selection => do
    let _ ← tellConflicts (← loadEntries file selection)
  | tree file selection => do showTree (← loadEntries file selection)
  | poms specs repository => addPoms settings repository specs
  | reports task projects => report tools settings projects task

/-- Do what the program is asked to do. -/
def Invocation.perform (tools : Tools) (i : Invocation) : Work Unit := do
  i.request.run tools (← loadSettings i.settings)

/-- The exit status of a piece of work. Failures that are told to the user are
    told, and others go on. -/
def exitStatus (work : Work Unit) : Work Nat :=
  tryCatch (do work; return 0) fun failure => do
    if failure.isReported then
      Work.warn s!"ERROR: {failure.message}"
      return 1
    else throw failure

/-- Do what the program is asked to do, and give its exit status. -/
def Invocation.run (tools : Tools) (i : Invocation) : Work Nat := exitStatus (i.perform tools)

end JavaBuild.CommandLine
