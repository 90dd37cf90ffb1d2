import JavaBuild.Dictionary
import JavaBuild.Failure
import JavaBuild.Xml.Document

/-!
# Results of Checkstyle runs

A `Result` holds the names of the checked files and the violations of the rules
that were found. Checkstyle reports them in a document: an element for each file
with an element for each of its violations (`Result.ofReport`). Violations are
counted by their severity, and shown by the files that they are in
(`Result.byFile`).
-/

namespace JavaBuild.Checkstyle

/-- A violation of a rule. -/
structure Violation where
  file : String
  line : Int
  column : Option Int
  severity : String
  message : String
  /-- The check that found it. -/
  source : String := ""
  deriving DecidableEq, Repr

/-- What a run has found. -/
structure Result where
  /-- The checked files, in the order of the report. -/
  files : List String := []
  /-- The violations, in the order of the report. -/
  violations : List Violation := []
  deriving DecidableEq, Repr

namespace Result

variable (r : Result)

/-- The number of violations of a severity. -/
def countOf (severity : String) : Nat :=
  r.violations.countP fun v => v.severity == severity

/-- The number of errors. -/
def errors : Nat := r.countOf "error"

/-- The number of warnings. -/
def warnings : Nat := r.countOf "warning"

/-- The files with violations, in the order in which these are first found, each
    with its violations. -/
def byFile : List (String × List Violation) :=
  (r.violations.foldl (fun d v => d.update v.file [] (· ++ [v])) Dictionary.empty).entries

end Result

/-- The value of an attribute, or else this. -/
def attributeOr (e : Xml.Element) (name default : String) : String :=
  (e.attribute? name).getD default

/-- A whole number in a text. -/
def readNumber (s : String) : Except Failure Int :=
  (Text.readInteger s).mapError (.number s)

/-- The violation that an element tells of. -/
def readViolation (file : String) (e : Xml.Element) : Except Failure Violation := do
  let line ← readNumber (attributeOr e "line" "0")
  let column ← match e.attribute? "column" with
    | none | some "" => pure none
    | some s => (readNumber s).map some
  return {
    file, line, column
    severity := attributeOr e "severity" "error"
    message := attributeOr e "message" ""
    source := attributeOr e "source" "" }

/-- The violations of a file that an element tells of. -/
def readFile (e : Xml.Element) : Except Failure (List Violation) :=
  (e.childrenNamed (.plain "error")).mapM (readViolation (attributeOr e "name" ""))

/-- The result in a report. -/
def Result.ofReport (root : Xml.Element) : Except Failure Result := do
  let files := root.childrenNamed (.plain "file")
  let violations ← files.mapM readFile
  return { files := files.map (attributeOr · "name" ""), violations := violations.flatten }

/-- The failure of reading a report. -/
def reportFailure (data : Path) : Xml.XmlError → Failure
  | .malformed fault position => .checkstyle (.badReport data (.malformed fault position))
  | .encoding name e => .xmlEncoding name e

/-- The result in the text of a report. -/
def Result.ofBytes (data : Path) (bytes : ByteArray) : Except Failure Result :=
  match Xml.readDocument bytes with
  | .error e => .error (reportFailure data e)
  | .ok root => Result.ofReport root

end JavaBuild.Checkstyle
