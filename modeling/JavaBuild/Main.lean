import JavaBuild.CommandLine.Run
import JavaBuild.Stylesheet.Basic

/-!
# The program

`main` takes a picture of the files, does on it what the arguments ask for, and
then prints and carries the changes over to the files. The picture shows the
working directory, the local repository of the user, and what arguments name.

No command is started from here: Checkstyle counts as not installed. The engine is
the one for plain stylesheets. A program that has others passes tools of its own to
`Invocation.run`.
-/

namespace JavaBuild.Program

open CommandLine (Answer Invocation Stop)

/-- A location as the system writes it. -/
def systemPath (loc : Location) : String := "/" ++ "/".intercalate loc

/-- The location that the system writes so. -/
def locationOf (path : String) : Location := (Path.ofString path).parts

/-- The tree with a directory at a location, and those around it. -/
def addDirectories (t : FileTree) (loc : Location) : FileTree :=
  (List.range (loc.length + 1)).foldl (fun t n => t.put (loc.take n) .directory) t

/-- The tree with what the system has at and below a location. -/
partial def addBelow (t : FileTree) (loc : Location) : IO FileTree := do
  let place := (← IO.currentDir) / systemPath loc
  if ← place.isDir then
    let entries ← place.readDir
    entries.foldlM (fun t entry => addBelow t (loc ++ [entry.fileName])) (t.put loc .directory)
  else if ← place.pathExists then return t.put loc (.file (← IO.FS.readBinFile place))
  else return t

/-- The tree with what the system has at and below a location, and the
    directories around it. -/
def addPlace (t : FileTree) (loc : Location) : IO FileTree :=
  addBelow (addDirectories t loc.dropLast) loc

/-- The files as they are. -/
def picture (arguments : List String) : IO Workspace := do
  let here := locationOf (← IO.currentDir).toString
  let home := locationOf ((← IO.getEnv "HOME").getD "/")
  let named := arguments.map fun a =>
    let p := Path.ofString a
    (if p.anchor = .relative then here ++ p.parts else p.parts).filter (· != "..")
  let places := here :: (home ++ [".m2", "repository"]) :: named
  let files ← places.foldlM addPlace (addDirectories .empty home)
  return { files, here, home }

/-- Whether a tree has the same at a location as this node. -/
def isSame (t : FileTree) (loc : Location) (node : FileNode) : Bool :=
  match t.get? loc, node with
  | some .directory, .directory => true
  | some (.file a), .file b => a == b
  | _, _ => false

/-- Remove what is gone, the innermost first. -/
def removeGone (before after : FileTree) : IO Unit :=
  before.nodes.reverse.forM fun (loc, node) => do
    if (after.get? loc).isNone then
      match node with
      | .directory => IO.FS.removeDir (systemPath loc)
      | .file _ => IO.FS.removeFile (systemPath loc)

/-- Write what is new, the outermost first. -/
def writeNew (before after : FileTree) : IO Unit :=
  after.nodes.forM fun (loc, node) => do
    if !isSame before loc node then
      match node with
      | .directory => IO.FS.createDirAll (systemPath loc)
      | .file bytes => IO.FS.writeBinFile (systemPath loc) bytes

/-- Do what the program is asked to do. -/
def carryOut (i : Invocation) (w : Workspace) : IO UInt32 := do
  let tools : Checkstyle.Tools :=
    { runner := fun _ => .notStarted (.refused .noEntry (.named "java"))
      engine := Stylesheet.engine }
  let (result, session) := ((i.run tools).run { workspace := w }).run
  session.out.forM IO.println
  session.err.forM IO.eprintln
  removeGone w.files session.workspace.files
  writeNew w.files session.workspace.files
  match result with
  | .ok status => return status.toUInt32
  | .error failure =>
    IO.eprintln failure.message
    return 1

end JavaBuild.Program

/-- The program. -/
def main (arguments : List String) : IO UInt32 := do
  match JavaBuild.CommandLine.Invocation.parse arguments with
  | .ok i => JavaBuild.Program.carryOut i (← JavaBuild.Program.picture arguments)
  | .error stop =>
    IO.print stop.answer.out
    IO.eprint stop.answer.err
    return stop.answer.status.toUInt32
