import JavaBuild.Failure
import JavaBuild.FileTree.Workspace

/-!
# Work

A piece of `Work` changes the file tree, prints lines, starts commands, and may
fail. Its state (`Session`) is the file tree as seen from the working directory
with the lines that have been printed and the commands that have been started; a
failure leaves the state as it is at that point.

`Work.runIn` is what a piece of work comes to in a session: its result and the
session afterwards. The lemmas `runIn_…` say so for each way to build work.
-/

namespace JavaBuild

/-- The files, and what has happened so far. -/
structure Session where
  workspace : Workspace
  /-- The lines of the output. -/
  out : List String := []
  /-- The lines of the error output. -/
  err : List String := []
  /-- The commands that have been started. -/
  started : List (List String) := []

/-- A piece of work. -/
abbrev Work := ExceptT Failure (StateM Session)

namespace Work

/-- Print a line. -/
def print (line : String) : Work Unit :=
  modify fun s => { s with out := s.out ++ [line] }

/-- Print a line to the error output. -/
def warn (line : String) : Work Unit :=
  modify fun s => { s with err := s.err ++ [line] }

/-- Note that a command is started. -/
def start (command : List String) : Work Unit :=
  modify fun s => { s with started := s.started ++ [command] }

/-- Give a result, or fail. -/
def ofExcept {ε α : Type} (failure : ε → Failure) : Except ε α → Work α
  | .ok a => pure a
  | .error e => throw (failure e)

/-- Look at the files. -/
def inspect {α : Type} (f : Workspace → Except FileError α) : Work α := do
  ofExcept .file (f (← get).workspace)

/-- Change the files. -/
def change (f : Workspace → Except FileError Workspace) : Work Unit := do
  let workspace ← inspect f
  modify fun s => { s with workspace }

/-- Make a directory that may be there already, and those around it that are missing. -/
def makeDirectories (p : Path) : Work Unit := do
  let (result, workspace) := (← get).workspace.makeDirectories p
  modify fun s => { s with workspace }
  ofExcept .file result

/-- Remove a file that need not be there. -/
def removeFile (p : Path) : Work Unit := do
  match (← get).workspace.removeFile p with
  | .ok workspace => modify fun s => { s with workspace }
  | .error (.os (.refused .noEntry _)) => pure ()
  | .error e => throw (.file e)

/-- Write a text to a file. -/
def writeText (p : Path) (text : String) : Work Unit :=
  change (·.writeFile p text.toUTF8)

/-- Write a text in which there may be lone surrogates to a file. If there are, this fails,
    but only after the file has been opened, and so emptied. -/
def writeEscaped (escapes : Text.Escapes) (p : Path) (text : String) : Work Unit :=
  match escapes.encode text with
  | .ok bytes => change (·.writeFile p bytes)
  | .error e => do
    change (·.writeFile p .empty)
    throw (.unencodable e)

theorem writeEscaped_of_isUnicode {escapes : Text.Escapes} {text : String}
    (h : escapes.IsUnicode text) (p : Path) : writeEscaped escapes p text = writeText p text := by
  rw [writeEscaped, Text.Escapes.encode_eq_ok_iff.2 ⟨h, rfl⟩, writeText]

@[simp] theorem writeEscaped_empty (p : Path) (text : String) :
    writeEscaped .empty p text = writeText p text :=
  writeEscaped_of_isUnicode (Text.Escapes.isUnicode_empty text) p

/-- Whether there is something at a path. -/
def pathExists (p : Path) : Work Bool := inspect (·.pathExists p)

/-- The bytes of a file. -/
def readFile (p : Path) : Work ByteArray := inspect (·.readFile p)

/-- A path from the root without `..`. -/
def resolve (p : Path) : Work Path := inspect (·.resolve p)

/-! ## Running work -/

variable {α β ε : Type}

/-- What a piece of work comes to in a session, and the session afterwards. -/
def runIn (t : Work α) (s : Session) : Except Failure α × Session := (t.run s).run

@[simp] theorem runIn_pure (a : α) (s : Session) : (pure a : Work α).runIn s = (.ok a, s) := rfl

@[simp] theorem runIn_throw (e : Failure) (s : Session) :
    (throw e : Work α).runIn s = (.error e, s) := rfl

/-- Work goes on in the session that the work before it has left, unless that
    has failed. -/
theorem runIn_bind (t : Work α) (f : α → Work β) (s : Session) :
    (t >>= f).runIn s = match t.runIn s with
      | (.ok a, s') => (f a).runIn s'
      | (.error e, s') => (.error e, s') := by
  have h : (t >>= f).runIn s =
      ((ExceptT.bindCont f (t.runIn s).1).run (t.runIn s).2).run := rfl
  rw [h]
  rcases t.runIn s with ⟨_ | a, s'⟩ <;> rfl

/-- A failure is handled in the session that it leaves. -/
theorem runIn_tryCatch (t : Work α) (f : Failure → Work α) (s : Session) :
    (tryCatch t f).runIn s = match t.runIn s with
      | (.ok a, s') => (.ok a, s')
      | (.error e, s') => (f e).runIn s' := by
  have h : (tryCatch t f).runIn s = runIn (ExceptT.tryCatch t f) s := rfl
  have ht : t s = t.runIn s := rfl
  rw [h, runIn, ExceptT.tryCatch]
  simp only [ExceptT.run, ExceptT.mk, bind, StateT.bind, ht]
  rcases t.runIn s with ⟨_ | a, s'⟩ <;> rfl

/-- Work for each item of a list, each of which leaves the session as it is. -/
theorem runIn_mapM {f : α → Work β} {g : α → Except Failure β} {s : Session}
    (h : ∀ a, (f a).runIn s = (g a, s)) (as : List α) :
    (as.mapM f).runIn s = (as.mapM g, s) := by
  induction as with
  | nil => rfl
  | cons a as ih =>
    rw [List.mapM_cons, List.mapM_cons, runIn_bind, h]
    cases g a with
    | error e => rfl
    | ok b =>
      simp only [runIn_bind, ih]
      cases as.mapM g <;> rfl

@[simp] theorem runIn_get (s : Session) : (get : Work Session).runIn s = (.ok s, s) := rfl

@[simp] theorem runIn_modify (f : Session → Session) (s : Session) :
    (modify f : Work Unit).runIn s = (.ok (), f s) := rfl

@[simp] theorem runIn_print (line : String) (s : Session) :
    (print line).runIn s = (.ok (), { s with out := s.out ++ [line] }) := rfl

@[simp] theorem runIn_warn (line : String) (s : Session) :
    (warn line).runIn s = (.ok (), { s with err := s.err ++ [line] }) := rfl

@[simp] theorem runIn_start (command : List String) (s : Session) :
    (start command).runIn s = (.ok (), { s with started := s.started ++ [command] }) := rfl

@[simp] theorem runIn_ofExcept (failure : ε → Failure) (r : Except ε α) (s : Session) :
    (ofExcept failure r).runIn s = (r.mapError failure, s) := by
  cases r <;> rfl

@[simp] theorem runIn_inspect (f : Workspace → Except FileError α) (s : Session) :
    (inspect f).runIn s = ((f s.workspace).mapError .file, s) := by
  simp [inspect, runIn_bind]

theorem runIn_change (f : Workspace → Except FileError Workspace) (s : Session) :
    (change f).runIn s = match f s.workspace with
      | .ok workspace => (.ok (), { s with workspace })
      | .error e => (.error (.file e), s) := by
  simp only [change, runIn_bind, runIn_inspect]
  cases f s.workspace <;> rfl

theorem runIn_makeDirectories (p : Path) (s : Session) :
    (makeDirectories p).runIn s = ((s.workspace.makeDirectories p).1.mapError .file,
      { s with workspace := (s.workspace.makeDirectories p).2 }) := by
  simp [makeDirectories, runIn_bind]

theorem runIn_removeFile (p : Path) (s : Session) :
    (removeFile p).runIn s = match s.workspace.removeFile p with
      | .ok workspace => (.ok (), { s with workspace })
      | .error (.os (.refused .noEntry _)) => (.ok (), s)
      | .error e => (.error (.file e), s) := by
  simp only [removeFile, runIn_bind, runIn_get]
  split <;> rfl

end Work

end JavaBuild
