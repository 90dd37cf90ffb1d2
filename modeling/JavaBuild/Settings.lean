import JavaBuild.Work
import JavaBuild.Toml.Reader

/-!
# Settings files

Settings are kept in a file in the TOML format, with one table for each tool. A
settings file that is not there counts as empty (`loadSettings`). A tool's
settings are those in the table of its name (`settingsSection`).
-/

namespace JavaBuild

/-- The name of a settings file. -/
def settingsName : String := "build.toml"

/-- The settings file in the working directory. -/
def defaultSettingsFile : Path := .ofString settingsName

/-- The settings in a text. -/
def settingsOf (file : Path) (bytes : ByteArray) : Except Failure Toml.Fields :=
  match Text.decodeUtf8 bytes with
  | .error e => .error (.encoding e)
  | .ok text =>
    let cs := Toml.normalizeNewlines text.toList
    match Toml.readSettings cs with
    | .ok fields => .ok fields
    | .error (.malformed fault left) => .error (.settings file cs fault left)
    | .error (.tooManyDigits digits) => .error (.number "" (.tooLong digits))

/-- The settings in a file. -/
def loadSettings (file : Path) : Work Toml.Fields := do
  if ← Work.pathExists file then Work.ofExcept id (settingsOf file (← Work.readFile file))
  else return []

/-- The table of a tool, which is empty if there is none. -/
def settingsSection (settings : Toml.Fields) (name : String) : Toml.Fields :=
  match Value.field? settings name with
  | some (.table fields) => fields
  | _ => []

end JavaBuild
