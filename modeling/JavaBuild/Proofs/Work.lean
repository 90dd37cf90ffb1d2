import JavaBuild.Proofs.FileTree.NulPath
import JavaBuild.Proofs.Result
import JavaBuild.Work
import Mathlib.Logic.Relation

/-!
# Steps of work

Work changes files step by step, and what it has done when it fails stays done. A piece of
work goes by steps of a kind (`Work.GoesBy`) if such steps lead from the files at its start
to those it leaves, whether or not it succeeds. The steps of work that is made of several
pieces are those of the pieces (`GoesBy.bind`).

Failures that are told to the user do no harm. Of the others, work comes only to some
(`Work.FaultsBy`), which again are those of its pieces (`FaultsBy.bind`).
-/

namespace JavaBuild.Work

open Relation (ReflTransGen)

variable {α β ε : Type} {R : Workspace → Workspace → Prop} {s : Session} {t : Work α}

/-- Work that goes on after other work succeeds if both do. -/
theorem runIn_bind_eq_ok {f : α → Work β} {b : β} {s' : Session}
    (h : (t >>= f).runIn s = (.ok b, s')) :
    ∃ a s₁, t.runIn s = (.ok a, s₁) ∧ (f a).runIn s₁ = (.ok b, s') := by
  rw [runIn_bind] at h
  cases hrun : t.runIn s with
  | mk result s₁ =>
    rw [hrun] at h
    cases result with
    | error e => cases h
    | ok a => exact ⟨a, s₁, rfl, h⟩

/-- What has been found to succeed does so in some session. -/
theorem exists_eq_ok {run : Except Failure α × Session} {a : α}
    (h : run.1.toOption = some a) : ∃ s', run = (.ok a, s') := by
  obtain ⟨result, s'⟩ := run
  cases result with
  | error e => cases h
  | ok b =>
    cases h
    exact ⟨s', rfl⟩

/-- Work fails as the first of its parts does. -/
theorem runIn_bind_eq_error {f : α → Work β} {e : Failure} (h : (t.runIn s).1 = .error e) :
    ((t >>= f).runIn s).1 = .error e := by
  rw [runIn_bind]
  cases hrun : t.runIn s with
  | mk result s' =>
    rw [hrun] at h
    cases h
    rfl

/-- Work for the items of a list goes on after the first of them, unless that fails. -/
theorem runIn_forM_cons (f : α → Work Unit) (a : α) (as : List α) (s : Session) :
    ((a :: as).forM f).runIn s = match (f a).runIn s with
      | (.ok _, s') => (as.forM f).runIn s'
      | (.error e, s') => (.error e, s') := by
  rw [List.forM, runIn_bind]
  rcases (f a).runIn s with ⟨_ | _, _⟩ <;> rfl

/-- Work for the items of a list that always succeeds changes the session in turn. -/
theorem runIn_forM_eq_ok {f : α → Work Unit} {g : List α → Session → Session}
    (hnil : ∀ s, g [] s = s) (hcons : ∀ a as s, g as (g [a] s) = g (a :: as) s)
    (hf : ∀ a s, (f a).runIn s = (.ok (), g [a] s)) (as : List α) (s : Session) :
    (as.forM f).runIn s = (.ok (), g as s) := by
  induction as generalizing s with
  | nil =>
    rw [hnil]
    rfl
  | cons a as ih =>
    rw [runIn_forM_cons, hf]
    simp only [ih, hcons]

/-- Lines are printed one after the other. -/
theorem runIn_forM_print (lines : List String) (s : Session) :
    (lines.forM print).runIn s = (.ok (), { s with out := s.out ++ lines }) :=
  runIn_forM_eq_ok (g := fun lines s => { s with out := s.out ++ lines }) (by simp) (by simp)
    runIn_print lines s

/-- Warnings are printed one after the other. -/
theorem runIn_forM_warn (lines : List String) (s : Session) :
    (lines.forM warn).runIn s = (.ok (), { s with err := s.err ++ lines }) :=
  runIn_forM_eq_ok (g := fun lines s => { s with err := s.err ++ lines }) (by simp) (by simp)
    runIn_warn lines s

/-- Where a text could be written, a lone surrogate in it makes this fail, and an empty file is
    left. -/
theorem runIn_writeEscaped_of_error {escapes : Text.Escapes} {error : Text.EncodeError}
    {text : String} {p : Path} {s' : Session} (htext : escapes.encode text = .error error)
    (h : (writeText p text).runIn s = (.ok (), s')) : ∃ workspace,
      (writeEscaped escapes p text).runIn s = (.error (.unencodable error), { s with workspace }) ∧
      workspace.readFile p = .ok .empty := by
  rw [writeText, runIn_change] at h
  -- The file is opened, whatever is to be written.
  cases hempty : s.workspace.writeFile p .empty with
  | error e => simp [Workspace.writeFile_eq_error _ hempty] at h
  | ok workspace =>
    obtain ⟨l, hl⟩ := Workspace.inspect_writeFile hempty
    refine ⟨workspace, ?_, Workspace.readFile_of_inspect hl⟩
    simp only [writeEscaped, htext, runIn_bind, runIn_change, hempty, runIn_throw]

/-- Where a text cannot be written, lone surrogates make no difference. -/
theorem runIn_writeEscaped_of_refused {text : String} {p : Path} {f : Failure} {s' : Session}
    (escapes : Text.Escapes) (h : (writeText p text).runIn s = (.error f, s')) :
    (writeEscaped escapes p text).runIn s = (.error f, s') := by
  cases htext : escapes.encode text with
  | ok bytes =>
    rw [writeEscaped_of_isUnicode (Text.Escapes.encode_eq_ok_iff.1 htext).1, h]
  | error error =>
    rw [writeText, runIn_change] at h
    cases hwrite : s.workspace.writeFile p text.toUTF8 with
    | ok workspace =>
      rw [hwrite] at h
      cases h
    | error e =>
      rw [hwrite] at h
      simp only [writeEscaped, htext, runIn_bind, runIn_change,
        Workspace.writeFile_eq_error .empty hwrite, h]

/-- Steps of a kind lead to the files that are left. -/
def GoesBy (R : Workspace → Workspace → Prop) (t : Work α) (s : Session) : Prop :=
  ReflTransGen R s.workspace (t.runIn s).2.workspace

/-- Work that consists of two pieces goes by the steps of both. -/
theorem GoesBy.bind {f : α → Work β} (ht : GoesBy R t s)
    (hf : ∀ a s', t.runIn s = (.ok a, s') → GoesBy R (f a) s') : GoesBy R (t >>= f) s := by
  unfold GoesBy at ht ⊢
  rw [runIn_bind]
  cases hrun : t.runIn s with
  | mk result s' =>
    rw [hrun] at ht
    cases result with
    | error e => exact ht
    | ok a => exact ht.trans (hf a s' hrun)

/-- Steps of one kind are steps of another. -/
theorem GoesBy.mono {R' : Workspace → Workspace → Prop} (h : GoesBy R t s)
    (hR : ∀ w w', R w w' → R' w w') : GoesBy R' t s :=
  ReflTransGen.mono hR _ _ h

/-- Work that leaves the files alone makes no step. -/
theorem GoesBy.of_eq (h : (t.runIn s).2.workspace = s.workspace) : GoesBy R t s := by
  rw [GoesBy, h]

theorem goesBy_ofExcept (failure : ε → Failure) (r : Except ε α) (s : Session) :
    GoesBy R (ofExcept failure r) s :=
  .of_eq (by rw [runIn_ofExcept])

theorem goesBy_inspect (f : Workspace → Except FileError α) (s : Session) :
    GoesBy R (inspect f) s :=
  .of_eq (by rw [runIn_inspect])

/-- Giving a result leaves the session as it is. -/
theorem eq_of_runIn_ofExcept {failure : ε → Failure} {r : Except ε α} {a : α} {s' : Session}
    (h : (ofExcept failure r).runIn s = (.ok a, s')) : r = .ok a ∧ s' = s := by
  rw [runIn_ofExcept] at h
  cases r with
  | error e => cases h
  | ok b =>
    cases h
    exact ⟨rfl, rfl⟩

/-- Looking at the files leaves the session as it is. -/
theorem eq_of_runIn_inspect {f : Workspace → Except FileError α} {a : α} {s' : Session}
    (h : (inspect f).runIn s = (.ok a, s')) : f s.workspace = .ok a ∧ s' = s := by
  rw [runIn_inspect] at h
  cases hf : f s.workspace with
  | error e =>
    rw [hf] at h
    cases h
  | ok b =>
    rw [hf] at h
    cases h
    exact ⟨rfl, rfl⟩

/-- A change of the files is one step. -/
theorem goesBy_change {f : Workspace → Except FileError Workspace}
    (h : ∀ w, f s.workspace = .ok w → R s.workspace w) : GoesBy R (change f) s := by
  rw [GoesBy, runIn_change]
  cases hf : f s.workspace with
  | error e => exact .refl
  | ok w => exact .single (h w hf)

/-- So is removing a file that need not be there. -/
theorem goesBy_removeFile {p : Path} (h : ∀ w, s.workspace.removeFile p = .ok w → R s.workspace w) :
    GoesBy R (removeFile p) s := by
  rw [GoesBy, runIn_removeFile]
  split
  · rename_i w hw
    exact .single (h w hw)
  · exact .refl
  · exact .refl

/-- A file is written, if only with nothing. -/
theorem goesBy_writeEscaped {escapes : Text.Escapes} {p : Path} {text : String}
    (h : ∀ bytes w, s.workspace.writeFile p bytes = .ok w → R s.workspace w) :
    GoesBy R (writeEscaped escapes p text) s := by
  unfold writeEscaped
  split
  · exact goesBy_change (h _)
  · exact (goesBy_change (h _)).bind fun _ _ _ => .of_eq rfl

/-- Directories are made one by one. -/
theorem goesBy_makeDirectories (h : ∀ p w w', w.makeDirectory p = .ok w' → R w w') (p : Path)
    (s : Session) : GoesBy R (makeDirectories p) s := by
  have hensure (p : Path) (w w' : Workspace) (hw : w.ensureDirectory p = .ok w') :
      ReflTransGen R w w' := by
    rcases Workspace.ensureDirectory_eq_ok hw with hmake | ⟨-, rfl⟩
    · exact .single (h p w w' hmake)
    · exact .refl
  rw [GoesBy, runIn_makeDirectories]
  simp only
  generalize s.workspace = w
  -- By the recursion over parents: those that are made come before the directory itself.
  fun_induction Workspace.makeDirectories w p with
  | case1 p w' hw => exact hensure p _ w' hw
  | case2 p => exact .refl
  | case3 p _ _ _ _ e w' hrun ih =>
    rw [hrun] at ih
    exact ih
  | case4 p _ _ _ _ w' hrun w'' hw ih =>
    rw [hrun] at ih
    exact ih.trans (hensure p w' w'' hw)
  | case5 p _ _ _ _ w' hrun _ _ ih =>
    rw [hrun] at ih
    exact ih
  | case6 p => exact .refl

/-! ## Failures that are not told -/

variable {Fault : Failure → Prop} {p : Path}

/-- Work stays in its working directory, and if it fails and the user is not told, it is by a
    fault of this kind. -/
structure FaultsBy (Fault : Failure → Prop) (t : Work α) (s : Session) : Prop where
  here : (t.runIn s).2.workspace.here = s.workspace.here
  fault : ∀ f, (t.runIn s).1 = .error f → f.isReported = false → Fault f

/-- Work that consists of two pieces fails as one of them does. -/
theorem FaultsBy.bind {f : α → Work β} (ht : FaultsBy Fault t s)
    (hf : ∀ a s', t.runIn s = (.ok a, s') → s'.workspace.here = s.workspace.here →
      FaultsBy Fault (f a) s') : FaultsBy Fault (t >>= f) s := by
  obtain ⟨hhere, hfault⟩ := ht
  rcases hrun : t.runIn s with ⟨e | a, s'⟩
  · have hbind : (t >>= f).runIn s = (.error e, s') := by rw [runIn_bind, hrun]
    rw [hrun] at hhere hfault
    refine ⟨by rwa [hbind], fun e' he' => ?_⟩
    rw [hbind] at he'
    cases he'
    exact hfault e rfl
  · have hbind : (t >>= f).runIn s = (f a).runIn s' := by rw [runIn_bind, hrun]
    rw [hrun] at hhere
    obtain ⟨hhere', hfault'⟩ := hf a s' hrun hhere
    exact ⟨by rw [hbind, hhere', hhere], fun e he => hfault' e (hbind ▸ he)⟩

/-- Work that leaves the files alone, and of whose failures the user is told, comes to no
    fault. -/
theorem FaultsBy.of_reported (hs : (t.runIn s).2.workspace = s.workspace)
    (h : ∀ f, (t.runIn s).1 = .error f → f.isReported = true) : FaultsBy Fault t s where
  here := by rw [hs]
  fault := fun f hf hreported => by
    rw [h f hf] at hreported
    cases hreported

theorem FaultsBy.mono {Fault' : Failure → Prop} (h : FaultsBy Fault t s)
    (hfault : ∀ f, Fault f → Fault' f) : FaultsBy Fault' t s where
  here := h.here
  fault := fun f hf hreported => hfault f (h.fault f hf hreported)

/-- Work that leaves the session alone comes to the faults of its result. -/
theorem FaultsBy.of_runIn {r : Except Failure α} (h : t.runIn s = (r, s))
    (hfault : ∀ f, r = .error f → f.isReported = false → Fault f) : FaultsBy Fault t s where
  here := by rw [h]
  fault := fun f hf => hfault f (by rwa [h] at hf)

theorem faultsBy_pure (a : α) (s : Session) : FaultsBy Fault (pure a) s :=
  .of_reported rfl fun _ h => nomatch h

/-- A failure that is told is no fault. -/
theorem faultsBy_throw {f : Failure} (h : f.isReported = true) (s : Session) :
    FaultsBy Fault (throw f : Work α) s :=
  .of_reported rfl fun _ hf => Except.error.inj hf ▸ h

theorem faultsBy_modify {f : Session → Session}
    (h : (f s).workspace.here = s.workspace.here) : FaultsBy Fault (modify f) s where
  here := h
  fault := fun _ hf => nomatch hf

theorem faultsBy_get (s : Session) : FaultsBy Fault get s := .of_reported rfl fun _ h => nomatch h

theorem faultsBy_print (line : String) (s : Session) : FaultsBy Fault (print line) s :=
  faultsBy_modify rfl

theorem faultsBy_warn (line : String) (s : Session) : FaultsBy Fault (warn line) s :=
  faultsBy_modify rfl

theorem faultsBy_start (command : List String) (s : Session) :
    FaultsBy Fault (start command) s := faultsBy_modify rfl

/-- A result is at fault only if it is a failure that is not told. -/
theorem faultsBy_ofExcept {failure : ε → Failure} {r : Except ε α}
    (h : ∀ e, r = .error e → (failure e).isReported = false → Fault (failure e)) (s : Session) :
    FaultsBy Fault (ofExcept failure r) s where
  here := by rw [runIn_ofExcept]
  fault := fun f hf => by
    rw [runIn_ofExcept] at hf
    obtain ⟨e, he, rfl⟩ := mapError_eq_error_iff.1 hf
    exact h e he

/-- The user is told of the errors of the system. -/
theorem faultsBy_ofFileError {r : Except FileError α}
    (h : r = .error .nulInPath → Fault (.file .nulInPath)) (s : Session) :
    FaultsBy Fault (ofExcept .file r) s := by
  refine faultsBy_ofExcept (fun e he hreported => ?_) s
  cases e with
  | os e => cases hreported
  | nulInPath => exact h he

/-- Looking at the files faults only for a NUL, … -/
theorem faultsBy_inspect {f : Workspace → Except FileError α}
    (h : f s.workspace = .error .nulInPath → Fault (.file .nulInPath)) :
    FaultsBy Fault (inspect f) s := by
  refine (faultsBy_get s).bind fun session s' hs _ => ?_
  cases hs
  exact faultsBy_ofFileError h s

/-- … and so does changing them, … -/
theorem faultsBy_change {f : Workspace → Except FileError Workspace}
    (hhere : ∀ w, f s.workspace = .ok w → w.here = s.workspace.here)
    (h : f s.workspace = .error .nulInPath → Fault (.file .nulInPath)) :
    FaultsBy Fault (change f) s := by
  refine (faultsBy_inspect h).bind fun w s' hw _ => faultsBy_modify ?_
  obtain ⟨hw, rfl⟩ := eq_of_runIn_inspect hw
  exact hhere w hw

theorem faultsBy_pathExists (p : Path) (s : Session) : FaultsBy Fault (pathExists p) s :=
  faultsBy_inspect fun h => absurd h Workspace.pathExists_ne_nulInPath

/-- … reading a file, … -/
theorem faultsBy_readFile (h : s.workspace.HoldsNul p → Fault (.file .nulInPath)) :
    FaultsBy Fault (readFile p) s :=
  faultsBy_inspect fun hread => h (.of_mem (Workspace.readFile_eq_nulInPath hread))

/-- … writing one, … -/
theorem faultsBy_writeText (h : s.workspace.HoldsNul p → Fault (.file .nulInPath))
    (text : String) : FaultsBy Fault (writeText p text) s :=
  faultsBy_change (fun _ hw => Workspace.here_of_withFiles (Workspace.withFiles_writeFile hw))
    fun hwrite => h (.of_mem (Workspace.writeFile_eq_nulInPath hwrite))

/-- … making directories, … -/
theorem faultsBy_makeDirectories (h : s.workspace.HoldsNul p → Fault (.file .nulInPath)) :
    FaultsBy Fault (makeDirectories p) s := by
  refine (faultsBy_get s).bind fun session s' hs _ => ?_
  cases hs
  refine (faultsBy_modify (Workspace.makeDirectories_grows _ p).here).bind fun _ s' _ _ => ?_
  exact faultsBy_ofFileError
    (fun hmake => h (.of_mem (Workspace.makeDirectories_eq_nulInPath hmake))) s'

/-- … and removing a file. The path has a NUL then, as seen from the root. -/
theorem faultsBy_removeFile (h : s.workspace.HoldsNul p → Fault (.file .nulInPath)) :
    FaultsBy Fault (removeFile p) s := by
  refine (faultsBy_get s).bind fun session s' hs _ => ?_
  cases hs
  split
  · rename_i w hw
    exact faultsBy_modify (Workspace.here_of_removeFile hw)
  · exact faultsBy_pure _ _
  · rename_i e _ hremove
    cases e with
    | os e => exact faultsBy_throw rfl _
    | nulInPath =>
      exact faultsBy_ofFileError (r := .error .nulInPath)
        (fun _ => h (.of_mem (Workspace.removeFile_eq_nulInPath hremove))) s

/-- The faults of work for each item of a list are those for an item, wherever the work
    before it has come to. -/
theorem faultsBy_forM {f : α → Work Unit} {as : List α}
    (h : ∀ a ∈ as, ∀ s', s'.workspace.here = s.workspace.here → FaultsBy Fault (f a) s') :
    FaultsBy Fault (as.forM f) s := by
  induction as generalizing s with
  | nil => exact faultsBy_pure _ s
  | cons a as ih =>
    obtain ⟨ha, has⟩ := List.forall_mem_cons.1 h
    refine (ha s rfl).bind fun _ s' _ hs' => ih fun b hb s'' hs'' => ?_
    exact has b hb s'' (hs''.trans hs')

end JavaBuild.Work
