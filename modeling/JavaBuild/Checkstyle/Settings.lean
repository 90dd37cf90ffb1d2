import JavaBuild.Checkstyle.Config
import JavaBuild.Settings

/-!
# Settings of Checkstyle runs

`Config.ofSettings` makes a configuration of the table of Checkstyle's settings.
Paths are taken as seen from a base directory. A flag may be written as a text,
a number as a text or with a fraction, and a list of one item as the item alone.
Each setting that is not there has its default; the sources are those of a
project laid out as usual.
-/

namespace JavaBuild.Checkstyle

/-- A value as a list: the items of a list, none for no value, and else the value alone. -/
def itemsOf : Value → List Value
  | .null => []
  | .list items => items
  | .tuple items => items
  | v => [v]

/-- The path that a value names below a base directory. -/
def pathOf (base : Path) : Value → Except Failure Path
  | .text s => .ok (base.join (.ofString s))
  | _ => .error .wrongKind

/-- The path that a value names, if it is given. -/
def pathOf? (base : Path) (v : Value) : Except Failure (Option Path) :=
  if v.isGiven then (pathOf base v).map some else .ok none

/-- The failure for a value that cannot be used. The user is told of it, unless the value
    cannot be shown. -/
def refusal (v : Value) (e : CheckstyleError) : Failure :=
  if v.isShowable then .checkstyle e else .tooManyDigits

/-- The flag that a value stands for. -/
def flagOf (key : String) : Value → Except Failure Bool
  | .bool b => .ok b
  | .text s =>
    if s.toLower = "true" then .ok true
    else if s.toLower = "false" then .ok false
    else .error (.checkstyle (.badFlag key (.text s)))
  | v => .error (refusal v (.badFlag key v))

/-- The whole number that a value stands for. A fraction is cut off. -/
def numberOf (key : String) (v : Value) : Except Failure Int :=
  let bad : Except Failure Int := .error (refusal v (.badNumber key v))
  match v with
  | .bool b => .ok (if b then 1 else 0)
  | .int n => .ok n
  | .float x => match x.truncate?, x.magnitude with
    | some n, _ => .ok n
    | none, .infinite => .error .infinite
    | none, _ => bad
  | .text s => match Text.readInteger s with
    | .ok n => .ok n
    | .error _ => bad
  | _ => bad

/-- The version that a value names, which may be any that can be shown. -/
def versionOf (v : Value) : Except Failure String :=
  if v.isShowable then .ok v.display else .error .tooManyDigits

/-- The configuration in a table of settings, its paths seen from a base directory. -/
def Config.ofSettings (settings : Toml.Fields) (base : Path) : Except Failure Config := do
  let default : Config := {}
  let setting (key : String) (default : Value) : Value := (Value.field? settings key).getD default
  let reportDir ← pathOf base (setting "report-dir" (.text default.reportDir.toString))
  let dataFile ← pathOf base (setting "data-file" (.text default.dataFile.toString))
  let rules ← pathOf? base (setting "config" .null)
  let style ← pathOf? base (setting "style" .null)
  let failsOnViolation ← flagOf "fail-on-violation" (setting "fail-on-violation" (.bool true))
  let maxErrors ← numberOf "max-errors" (setting "max-errors" (.int 0))
  let maxWarnings ← numberOf "max-warnings" (setting "max-warnings" (.int 0))
  let sources ← (itemsOf (setting "sources" (.text "src/main/java"))).mapM (pathOf base)
  let classpath ← (itemsOf (setting "classpath" .null)).mapM (pathOf base)
  let version ← versionOf (setting "version" (.text expectedVersion))
  let config : Config := {
    reportDir := reportDir, dataFile, rules, style, failsOnViolation, maxErrors, maxWarnings
    sources, classpath, version }
  let config ← config.addIncludes ((itemsOf (setting "include" .null)).map .value)
  config.addExcludes ((itemsOf (setting "exclude" .null)).map .value)

end JavaBuild.Checkstyle
