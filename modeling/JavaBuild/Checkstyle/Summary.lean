import JavaBuild.Checkstyle.Result

/-!
# The summary of a result

A result is shown as a page (`Result.summary`) with a table for each file that
has violations. Texts are written with the characters that have a meaning in
markup as references (`escape`). There is no page if a line or a column has too many
digits to be shown (`Result.page`).
-/

namespace JavaBuild.Checkstyle

/-- A character in a text of a page. -/
def escapeChar : Char → List Char
  | '&' => "&amp;".toList
  | '<' => "&lt;".toList
  | '>' => "&gt;".toList
  | '"' => "&quot;".toList
  | '\'' => "&#x27;".toList
  | c => [c]

/-- A text of a page. -/
def escape (s : String) : String := String.ofList (s.toList.flatMap escapeChar)

/-- A violation as a row of a table. -/
def Violation.row (v : Violation) : String :=
  let column := match v.column with
    | none => ""
    | some n => toString n
  s!"<tr><td>{escape v.severity}</td><td>{v.line}</td><td>{column}</td>" ++
    s!"<td>{escape v.message}</td><td>{escape v.source}</td></tr>"

/-- The table of a file. -/
def tableLines (file : String) (violations : List Violation) : List String :=
  [s!"<h2>{escape file}</h2>", "<table>",
    "<tr><th>Severity</th><th>Line</th><th>Column</th><th>Message</th><th>Check</th></tr>"] ++
    violations.map Violation.row ++ ["</table>"]

namespace Result

variable (r : Result)

/-- The lines of the page that shows a result. -/
def summaryLines : List String :=
  ["<!DOCTYPE html>", "<html>",
    "<head><meta charset=\"utf-8\"><title>Checkstyle report</title></head>", "<body>",
    "<h1>Checkstyle report</h1>",
    s!"<p>{r.files.length} files checked, {r.errors} errors, {r.warnings} warnings.</p>"] ++
    (r.byFile.flatMap fun (file, violations) => tableLines file violations) ++
    ["</body>", "</html>"]

/-- The page that shows a result. -/
def summary : String := String.join (r.summaryLines.map (· ++ "\n"))

/-- Whether the lines and columns of all violations can be shown. -/
def isShowable : Bool :=
  r.violations.all fun v =>
    Text.isShowableInteger v.line && v.column.all Text.isShowableInteger

/-- The page that shows a result, if it can be shown. -/
def page : Except Failure String :=
  if r.isShowable then .ok r.summary else .error .tooManyDigits

end Result

end JavaBuild.Checkstyle
