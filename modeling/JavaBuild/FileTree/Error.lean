import JavaBuild.Path

/-!
# Errors of file operations

A file operation fails for a reason of the operating system (`OsError`), whose
message has the number of the reason, its text and what was operated on, or
because a path holds the NUL character, which no file name can (`FileError`).
-/

namespace JavaBuild

/-- Why the operating system refuses an operation. -/
inductive Errno where
  | noEntry
  | alreadyExists
  | notDirectory
  | isDirectory
  | nameTooLong
  deriving DecidableEq, Repr

/-- The number of a reason. -/
def Errno.number : Errno → Nat
  | noEntry => 2
  | alreadyExists => 17
  | notDirectory => 20
  | isDirectory => 21
  | nameTooLong => 36

/-- The text of a reason. -/
def Errno.text : Errno → String
  | noEntry => "No such file or directory"
  | alreadyExists => "File exists"
  | notDirectory => "Not a directory"
  | isDirectory => "Is a directory"
  | nameTooLong => "File name too long"

/-- What an operation was refused on. -/
inductive Subject where
  | nothing
  /-- Something named by a text, which is shown in quotes. -/
  | named (name : String)
  /-- A path shown as a value. -/
  | path (p : Path)
  deriving DecidableEq, Repr

/-- An operation refused by the operating system. -/
inductive OsError where
  | refused (reason : Errno) (subject : Subject)
  /-- A refusal known by its text only. -/
  | other (text : String)
  deriving DecidableEq, Repr

/-- The message of a refusal. -/
def OsError.message : OsError → String
  | refused reason subject =>
    let on := match subject with
      | .nothing => ""
      | .named name => ": " ++ Text.quoted name
      | .path p => ": " ++ p.literal
    s!"[Errno {reason.number}] {reason.text}" ++ on
  | other text => text

/-- Why a file operation fails. -/
inductive FileError where
  | os (e : OsError)
  /-- A path holds the NUL character. -/
  | nulInPath
  deriving DecidableEq, Repr

/-- The failure of an operation on a path. -/
def FileError.on (reason : Errno) (p : Path) : FileError :=
  .os (.refused reason (.named p.toString))

/-- The message of a file error. -/
def FileError.message : FileError → String
  | os e => e.message
  | nulInPath => "embedded null byte"

end JavaBuild
