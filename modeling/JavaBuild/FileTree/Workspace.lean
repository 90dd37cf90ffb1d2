import JavaBuild.FileTree.Basic
import JavaBuild.FileTree.Error

/-!
# The file tree as seen from a working directory

A `Workspace` is a file tree with the location that relative paths start from.
A path is followed name by name (`Workspace.locate`): each name is looked up in
a directory, and `..` leads to the location around. Each operation either fails
and leaves the workspace as it is, or gives its result; only `makeDirectories`,
which makes several directories, may fail half way.

`Workspace.resolve` is different: it removes `..` from the written path,
whatever is in the tree.
-/

namespace JavaBuild

/-- A file tree seen from a working directory. -/
structure Workspace where
  files : FileTree
  /-- The working directory. -/
  here : Location
  /-- The home directory. -/
  home : Location
  /-- The home directories of named users. -/
  homes : List (String × Location) := []

namespace Workspace

/-- The longest name of a file, in bytes. -/
def maxName : Nat := 255

/-- The longest path, in bytes. -/
def maxPath : Nat := 4095

/-- The location that a name leads to. -/
def step (loc : Location) (name : String) : Location :=
  if name = ".." then loc.dropLast else loc ++ [name]

/-- The location that names lead to, each looked up in a directory. -/
def walk (t : FileTree) : Location → List String → Except Errno Location
  | loc, [] => .ok loc
  | loc, name :: names =>
    match t.get? loc with
    | none => .error .noEntry
    | some (.file _) => .error .notDirectory
    | some .directory =>
      if maxName < name.utf8ByteSize then .error .nameTooLong
      else walk t (step loc name) names

variable (w : Workspace)

/-- The location that a path starts at. -/
def start (p : Path) : Location :=
  if p.anchor = .relative then w.here else []

/-- Whether the working directory has been removed. -/
def isAdrift : Bool := !w.files.isDirectory w.here

/-- The location that a path leads to, if each name is found. A working directory
    that has been removed is empty, but still below the one around it. -/
def follow (p : Path) : Except Errno Location :=
  if p.anchor = .relative ∧ w.isAdrift then
    match p.parts with
    | [] => .ok w.here
    | name :: names =>
      if name = ".." then walk w.files w.here.dropLast names else .error .noEntry
  else walk w.files (w.start p) p.parts

/-- The location that a path leads to, where there need not be anything. -/
def locate (p : Path) : Except FileError Location :=
  let text := p.toString
  if text.toList.contains '\x00' then .error .nulInPath
  else if maxPath < text.utf8ByteSize then .error (.on .nameTooLong p)
  else match w.follow p with
    | .ok loc => .ok loc
    | .error reason => .error (.on reason p)

/-- What is at the location of a path. The working directory is a directory even
    after it has been removed. -/
def node? (p : Path) (loc : Location) : Option FileNode :=
  if p = .here then some .directory else w.files.get? loc

/-- The location of a path with what is there. -/
def inspect (p : Path) : Except FileError (Location × FileNode) := do
  let loc ← w.locate p
  match w.node? p loc with
  | none => throw (.on .noEntry p)
  | some node => return (loc, node)

/-- What is at a path, or nothing if the path leads nowhere. -/
def find? (p : Path) : Except FileError (Option FileNode) :=
  match w.inspect p with
  | .ok (_, node) => .ok (some node)
  | .error .nulInPath => .ok none
  | .error (.os (.refused .noEntry _)) => .ok none
  | .error (.os (.refused .notDirectory _)) => .ok none
  | .error e => .error e

/-- Whether there is something at a path. -/
def pathExists (p : Path) : Except FileError Bool :=
  (w.find? p).map Option.isSome

/-- Whether there is a directory at a path. -/
def isDirectory (p : Path) : Except FileError Bool :=
  (w.find? p).map fun node => node.any FileNode.isDirectory

/-- The bytes of the file at a path. -/
def readFile (p : Path) : Except FileError ByteArray := do
  match ← w.inspect p with
  | (_, .directory) => throw (.on .isDirectory p)
  | (_, .file bytes) => return bytes

/-- The workspace with these files instead. -/
def withFiles (files : FileTree) : Workspace := { w with files }

/-- Write a file, over the one that may be there. -/
def writeFile (p : Path) (bytes : ByteArray) : Except FileError Workspace := do
  let loc ← w.locate p
  if (w.node? p loc).any FileNode.isDirectory then throw (.on .isDirectory p)
  else if w.files.Allows loc (.file bytes) then
    return w.withFiles (w.files.put loc (.file bytes))
  else throw (.on .noEntry p)

/-- Make a directory where there is nothing. -/
def makeDirectory (p : Path) : Except FileError Workspace := do
  let loc ← w.locate p
  if (w.node? p loc).isSome then throw (.on .alreadyExists p)
  else if w.files.Allows loc .directory then
    return w.withFiles (w.files.put loc .directory)
  else throw (.on .noEntry p)

/-- Make a directory that may be there already. -/
def ensureDirectory (p : Path) : Except FileError Workspace :=
  match w.makeDirectory p with
  | .error (.os (.refused .noEntry subject)) => .error (.os (.refused .noEntry subject))
  | .error (.os e) => do
    if ← w.isDirectory p then return w else throw (.os e)
  | result => result

/-- Make a directory that may be there already, and those around it that are
    missing. What was made before a failure stays. -/
def makeDirectories (w : Workspace) (p : Path) : Except FileError Unit × Workspace :=
  match w.ensureDirectory p with
  | .ok w' => (.ok (), w')
  | .error (.os (.refused .noEntry subject)) =>
    if h : p.parts = [] then (.error (.os (.refused .noEntry subject)), w)
    else
      have : p.parent.parts.length < p.parts.length := by
        have := List.length_pos_iff.2 h
        simp only [Path.parent, List.length_dropLast]
        omega
      match makeDirectories w p.parent with
      | (.error e, w') => (.error e, w')
      | (.ok (), w') => match w'.ensureDirectory p with
        | .ok w'' => (.ok (), w'')
        | .error e => (.error e, w')
  | .error e => (.error e, w)
termination_by p.parts.length

/-- Remove a file. -/
def removeFile (p : Path) : Except FileError Workspace := do
  match ← w.inspect p with
  | (_, .directory) => throw (.on .isDirectory p)
  | (loc, .file _) => return w.withFiles (w.files.prune loc)

/-- Remove a directory with all that is below it. -/
def removeTree (p : Path) : Except FileError Workspace := do
  match ← w.inspect p with
  | (_, .file _) => throw (.os (.refused .notDirectory (.path p)))
  | (loc, .directory) => return w.withFiles (w.files.prune loc)

/-- A location without `..` that names lead to, whatever is in the tree. -/
def lexical (loc : Location) (names : List String) : Location :=
  names.foldl step loc

/-- The location that a path names, whatever is in the tree. -/
def place (p : Path) : Location := lexical (w.start p) p.parts

/-- A path without `..`, from the root. -/
def resolve (p : Path) : Except FileError Path :=
  if p.toString.toList.contains '\x00' then .error .nulInPath
  else if p.anchor = .relative ∧ w.isAdrift then
    .error (.os (.refused .noEntry .nothing))
  else .ok ⟨.absolute, w.place p⟩

/-- The path with a first name of `~` or `~user` replaced by a home directory. -/
def expandHome? (p : Path) : Option Path :=
  match p.anchor, p.parts with
  | .relative, name :: rest =>
    if name = "~" then some ⟨.absolute, w.home ++ rest⟩
    else if name.toList.head? = some '~' then
      (w.homes.lookup (String.ofList name.toList.tail)).map fun home => ⟨.absolute, home ++ rest⟩
    else some p
  | _, _ => some p

/-- The locations below a directory, as lists of names from there. -/
def below (loc : Location) : List Location :=
  w.files.nodes.filterMap fun (l, _) =>
    if loc.isPrefixOf l && l != loc then some (l.drop loc.length) else none

/-- The directories below a directory, as lists of names from there. -/
def foldersBelow (loc : Location) : List Location :=
  (w.below loc).filter fun names => w.files.isDirectory (loc ++ names)

/-- Whether the last of some names ends in a suffix. -/
def endsIn (suffix : String) (names : List String) : Bool :=
  names.getLast?.any fun name => suffix.toList.isSuffixOf name.toList

/-- The paths below a directory whose last name ends in this suffix, ordered name
    by name. Each directory there is listed by its path, which may be too long. -/
def findSuffixed (dir : Path) (suffix : String) : Except FileError (List Path) :=
  match w.locate dir with
  | .error e => .error e
  | .ok loc =>
    match ((w.foldersBelow loc).map dir.extend).find? fun p =>
        maxPath < p.toString.utf8ByteSize with
    | some p => .error (.on .nameTooLong p)
    | none => .ok (((w.below loc).filter (endsIn suffix)).map dir.extend)

end Workspace

end JavaBuild
