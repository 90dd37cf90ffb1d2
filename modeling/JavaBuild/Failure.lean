import JavaBuild.Checkstyle.Error
import JavaBuild.Entry
import JavaBuild.Text.Integer
import JavaBuild.Text.Surrogate
import JavaBuild.Toml.Error

/-!
# Failures

All the ways in which a task can fail. Those that the user can mend by another
input, and those of the operating system, are *reported* (`Failure.isReported`):
the command line tells their message and goes on to its exit status.
-/

namespace JavaBuild

/-- Why a task fails. -/
inductive Failure where
  | entry (e : EntryError)
  /-- An error in a line of a dependency list. -/
  | listLine (list : Path) (number : Nat) (e : EntryError)
  /-- A dependency list that is not UTF-8. -/
  | listEncoding (list : Path) (e : Text.Utf8Error)
  | pom (pom : Path) (fault : Xml.XmlFault) (position : Xml.Position)
  /-- A fault in a settings file with this text. -/
  | settings (file : Path) (text : List Char) (fault : Toml.TomlFault) (left : Nat)
  | checkstyle (e : Checkstyle.CheckstyleError)
  /-- There are more violations than allowed; the reports are in this directory. -/
  | violations (reports : Path)
  | file (e : FileError)
  /-- A settings file that is not UTF-8. -/
  | encoding (e : Text.Utf8Error)
  /-- A text that cannot be written as UTF-8. -/
  | unencodable (e : Text.EncodeError)
  /-- A text that should be a number. -/
  | number (text : String) (fault : Text.IntegerFault)
  /-- A document that names an encoding which cannot be read. -/
  | xmlEncoding (name : String) (e : Xml.EncodingError)
  /-- A source that is not below its directory. -/
  | outside (source directory : Path)
  /-- A source without a name. -/
  | nameless (source : Path)
  | conflictingAlphabets
  | noHome
  /-- A value of a kind that cannot be used here. -/
  | wrongKind
  /-- A value that cannot do what is asked of it. -/
  | unsupported
  | infinite
  /-- A whole number of more digits than can be shown. -/
  | tooManyDigits
  /-- Another failure of what runs commands or makes pages. -/
  | foreign (kind text : String)
  deriving Inhabited

namespace Failure

/-- Whether the message is told to the user. -/
def isReported : Failure → Bool
  | entry _ | listLine .. | listEncoding .. | pom .. | settings .. | checkstyle _ | violations _
  | file (.os _) => true
  | _ => false

/-- The message about a number. -/
def numberMessage (text : String) : Text.IntegerFault → String
  | .malformed => s!"invalid literal for int() with base 10: {Text.quoted text}"
  | .tooLong digits =>
    s!"Exceeds the limit ({Text.maxDigits} digits) for integer string conversion: value has " ++
      s!"{digits} digits; use sys.set_int_max_str_digits() to increase the limit"

/-- The message of a failure, which some have none. -/
def message : Failure → String
  | entry e => e.message
  | listLine list line e => s!"{list}:{line}: {e.message}"
  | listEncoding list e => s!"{list} is not a UTF-8 text file: {e.message}"
  | pom source fault position => s!"Cannot parse {source}: {Xml.faultMessage fault position}"
  | settings source text fault left =>
    s!"Invalid settings file {source}: {Toml.faultMessage text fault left}"
  | checkstyle e => e.message
  | violations reports =>
    s!"Too many checkstyle errors or warnings see reports in '{reports}'"
  | file e => e.message
  | encoding e => e.message
  | unencodable e => e.message
  | number text fault => numberMessage text fault
  | xmlEncoding name e => e.message name
  | outside source directory =>
    s!"{Text.quoted source.toString} is not in the subpath of " ++
      s!"{Text.quoted directory.baseText} OR one path is relative and the other is absolute."
  | nameless source => s!"{source.literal} has an empty name"
  | conflictingAlphabets => "ASCII and UNICODE flags are incompatible"
  | noHome => "Could not determine home directory."
  | tooManyDigits =>
    s!"Exceeds the limit ({Text.maxDigits} digits) for integer string conversion; " ++
      "use sys.set_int_max_str_digits() to increase the limit"
  | foreign _ text => text
  | wrongKind | unsupported | infinite => ""

end Failure

end JavaBuild
