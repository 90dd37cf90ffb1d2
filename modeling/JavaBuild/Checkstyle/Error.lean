import JavaBuild.FileTree.Error
import JavaBuild.Pattern.Error
import JavaBuild.Value
import JavaBuild.Xml.Error

/-!
# Errors of Checkstyle runs

Why Checkstyle cannot be configured or run, or its report not be read or shown.
-/

namespace JavaBuild.Checkstyle

/-- Why a report cannot be read. -/
inductive ReportError where
  | malformed (fault : Xml.XmlFault) (position : Xml.Position)
  | unreadable (e : OsError)
  deriving DecidableEq, Repr

/-- The message of a report error. -/
def ReportError.message : ReportError → String
  | malformed fault position => Xml.faultMessage fault position
  | unreadable e => e.message

/-- Why Checkstyle cannot be configured or run. -/
inductive CheckstyleError where
  | badPattern (pattern : String) (fault : Pattern.PatternFault) (left : Option Nat)
  | badFlag (key : String) (value : Value)
  | badNumber (key : String) (value : Value)
  | noRules
  /-- There is no class path, on which these should be. -/
  | noClasspath (needed : List String)
  | badReport (data : Path) (e : ReportError)
  | notStarted (e : OsError)
  | noReport (data : Path) (status : Int) (errors : String)
  | notRendered (data style : Path)
  /-- The projects do not agree on one rules file. -/
  | noSingleRules (found : List Path)
  /-- The projects name several styles. -/
  | severalStyles (found : List Path)

/-- Paths separated by commas. -/
def pathList (ps : List Path) : String := ", ".intercalate (ps.map Path.toString)

/-- The message of an error. -/
def CheckstyleError.message : CheckstyleError → String
  | badPattern pattern fault left =>
    s!"Invalid class pattern '{pattern}': {Pattern.faultMessage pattern.toList fault left}"
  | badFlag key value => s!"Invalid value for '{key}': {value.literal}, expected true or false"
  | badNumber key value => s!"Invalid value for '{key}': {value.literal}, expected a number"
  | noRules => "No checkstyle config file set"
  | noClasspath needed => "No checkstyle classpath set, it needs: " ++ ", ".intercalate needed
  | badReport data e => s!"Cannot read checkstyle report {data}: {e.message}"
  | notStarted e => s!"Cannot run checkstyle: {e.message}"
  | noReport data status errors =>
    s!"Checkstyle wrote no report to {data} (exit status {status}): {errors}"
  | notRendered data style => s!"Cannot render {data} with style {style}: "
  | noSingleRules found =>
    s!"Could not set checkstyle config from projects, existing configs: '{pathList found}'"
  | severalStyles found =>
    s!"Could not set html style from projects, existing styles: '{pathList found}'"

end JavaBuild.Checkstyle
