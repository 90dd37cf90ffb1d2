import JavaBuild.Checkstyle.Run
import JavaBuild.Proofs.FileTree.Access

/-!
# How a run of Checkstyle ends

A run makes the directory of the reports, and then removes the report of an
earlier run. From there on (`Ending`) it either fails and leaves the files as they
are, or writes a report: the one of the command, whose result is what is read in
it unless the command has failed, or the report of nothing. `createReport_ending` is
about the run as a whole.
-/

namespace JavaBuild.Checkstyle

variable {c : Config} {runner : Runner} {s s' : Session} {r : Except Failure Result}
  {sources : List Path} {bytes : ByteArray} {data : Path}

/-- The report that a command has written. -/
def Outcome.report? : Outcome → Option ByteArray
  | ended report _ _ => report
  | failed report _ => report

/-- The result of reading a report is what is in it. -/
theorem loadReport_of_readFile (h : s.workspace.readFile data = .ok bytes) :
    (loadReport data).runIn s = (Result.ofBytes data bytes, s) := by
  simp only [loadReport, Work.runIn_bind, Work.runIn_get, h, Work.runIn_ofExcept]
  cases Result.ofBytes data bytes <;> rfl

/-- A result has been read from the report that is there. -/
theorem loadReport_eq_ok {r : Result} (h : (loadReport data).runIn s = (.ok r, s')) :
    s' = s ∧ ∃ bytes, s.workspace.readFile data = .ok bytes ∧
      Result.ofBytes data bytes = .ok r := by
  simp only [loadReport, Work.runIn_bind, Work.runIn_get] at h
  cases hread : s.workspace.readFile data with
  | error e =>
    rw [hread] at h
    cases e <;> cases h
  | ok bytes =>
    simp only [hread, Work.runIn_ofExcept] at h
    cases hr : Result.ofBytes data bytes with
    | error f =>
      rw [hr] at h
      cases h
    | ok r' =>
      rw [hr] at h
      cases h
      exact ⟨rfl, bytes, rfl, hr⟩

namespace Config

/-- The report of a command has been written, and the result is what is read in it. -/
structure Reported (c : Config) (runner : Runner) (s : Session) (bytes : ByteArray)
    (r : Except Failure Result) (s' : Session) : Prop where
  ended : ∃ command status errors, runner command = .ended (some bytes) status errors ∧
    s'.started = s.started ++ [command]
  written : s.workspace.writeFile c.dataFile bytes = .ok s'.workspace
  result : r = Result.ofBytes c.dataFile bytes

/-- How a run ends that has begun in a session without a report. -/
inductive Ending (c : Config) (runner : Runner) (s : Session) :
    Except Failure Result → Session → Prop
  | failed {f : Failure} {s' : Session} (kept : s'.workspace = s.workspace) :
    Ending c runner s (.error f) s'
  | reported {bytes : ByteArray} {r : Except Failure Result} {s' : Session}
    (h : c.Reported runner s bytes r s') : Ending c runner s r s'
  /-- The report of a command that has failed has been written, but is not read. -/
  | unread {command : List String} {bytes : ByteArray} {f : Failure}
    {r : Except Failure Result} {s' : Session}
    (failed : runner command = .failed (some bytes) f)
    (started : s'.started = s.started ++ [command])
    (written : s.workspace.writeFile c.dataFile bytes = .ok s'.workspace)
    (result : r = .error (runFailure f)) : Ending c runner s r s'
  /-- The report of nothing has been written. -/
  | nothing {s' : Session}
    (written : s.workspace.writeFile c.dataFile (emptyReport c.version).toUTF8 =
      .ok s'.workspace) : Ending c runner s (.ok {}) s'

/-- If the command ends with a report that can be written, the result is what is in it. -/
theorem runOn_of_report {command : List String} {status : Int} {errors : String}
    (hcommand : c.command sources = .ok command)
    (hended : runner command = .ended (some bytes) status errors) :
    (c.runOn runner sources).runIn s = match s.workspace.writeFile c.dataFile bytes with
      | .ok w => (Result.ofBytes c.dataFile bytes,
        { s with workspace := w, started := s.started ++ [command] })
      | .error (.os e) => (.error (.checkstyle (.notStarted e)),
        { s with started := s.started ++ [command] })
      | .error e => (.error (.file e), { s with started := s.started ++ [command] }) := by
  simp only [runOn, hcommand, hended, writeReport, Work.runIn_bind, Work.runIn_ofExcept,
    mapError_ok, Work.runIn_start, Work.runIn_get]
  cases hwrite : s.workspace.writeFile c.dataFile bytes with
  | error e => cases e <;> rfl
  | ok w =>
    -- What has just been written is found, and read again.
    obtain ⟨l, hl⟩ := Workspace.inspect_writeFile hwrite
    have hexists : w.pathExists c.dataFile = .ok true :=
      Workspace.pathExists_eq_ok_iff.2 ⟨_, Workspace.find?_of_inspect hl, rfl⟩
    simp only [Work.runIn_modify, Work.pathExists, Work.runIn_inspect, hexists, mapError_ok,
      if_true]
    exact loadReport_of_readFile (Workspace.readFile_of_inspect hl)

theorem runOn_ending (hnone : s.workspace.find? c.dataFile = .ok none) :
    Ending c runner s ((c.runOn runner sources).runIn s).1
      ((c.runOn runner sources).runIn s).2 := by
  -- The run ends early without a command, without a report, and when it cannot be written.
  cases hcommand : c.command sources with
  | error f =>
    simp only [runOn, Work.runIn_bind, Work.runIn_ofExcept, hcommand]
    exact .failed rfl
  | ok command =>
    cases hended : runner command with
    | failed report f =>
      simp only [runOn, Work.runIn_bind, Work.runIn_ofExcept, hcommand, mapError_ok,
        Work.runIn_start, hended]
      cases report with
      | none => exact .failed rfl
      | some bytes =>
        simp only [writeReport, Work.runIn_bind, Work.runIn_get]
        cases hwrite : s.workspace.writeFile c.dataFile bytes with
        -- Both kinds of failure are told alike.
        | error e => cases e <;> exact .failed rfl
        | ok w => exact .unread hended rfl hwrite rfl
    | ended report status errors =>
      cases report with
      | none =>
        simp only [runOn, Work.runIn_bind, Work.runIn_ofExcept, hcommand, mapError_ok,
          Work.runIn_start, hended, writeReport, Work.runIn_pure, Work.pathExists,
          Work.runIn_inspect, Workspace.pathExists, hnone]
        exact .failed rfl
      | some bytes =>
        rw [runOn_of_report hcommand hended]
        cases hwrite : s.workspace.writeFile c.dataFile bytes with
        | error e => cases e <;> exact .failed rfl
        | ok w => exact .reported ⟨⟨command, status, errors, hended, rfl⟩, hwrite, rfl⟩

theorem reportNothing_ending :
    Ending c runner s (c.reportNothing.runIn s).1 (c.reportNothing.runIn s).2 := by
  simp only [reportNothing, Work.runIn_bind, Work.runIn_warn, Work.writeText, Work.runIn_change]
  cases hwrite : s.workspace.writeFile c.dataFile (emptyReport c.version).toUTF8 with
  | error e => exact .failed rfl
  | ok w => exact .nothing hwrite

theorem report_ending (hnone : s.workspace.find? c.dataFile = .ok none) :
    Ending c runner s ((c.report runner).runIn s).1 ((c.report runner).runIn s).2 := by
  simp only [report, Work.runIn_bind, Work.runIn_print, Work.runIn_get, Work.runIn_ofExcept]
  cases c.selectSources s.workspace with
  | error f => exact .failed rfl
  | ok sources =>
    simp only [mapError_ok]
    -- Only lines have been printed so far.
    have hagain {r : Except Failure Result} {s' : Session} {out : List String}
        (h : Ending c runner { s with out } r s') : Ending c runner s r s' := by
      cases h with
      | failed kept => exact .failed kept
      | reported h => exact .reported ⟨h.ended, h.written, h.result⟩
      | unread failed started written result => exact .unread failed started written result
      | nothing written => exact .nothing written
    split
    · exact hagain reportNothing_ending
    · exact hagain (runOn_ending hnone)

/-- The directory of the reports is made at its resolved path. -/
theorem runIn_makeReportDir (c : Config) (s : Session) :
    c.makeReportDir.runIn s = match s.workspace.resolve c.reportDir with
      | .error e => (.error (.file e), s)
      | .ok q => ((s.workspace.makeDirectories q).1.mapError .file,
        { s with workspace := (s.workspace.makeDirectories q).2 }) := by
  simp only [makeReportDir, reportsHere, Work.runIn_bind, Work.runIn_inspect, reportTo_none]
  cases s.workspace.resolve c.reportDir with
  | error e => rfl
  | ok q => exact Work.runIn_makeDirectories q s

/-- Making the directory of the reports changes the files only, and fails only on
    a file operation. -/
theorem makeReportDir_cases (c : Config) (s : Session) :
    (c.makeReportDir.runIn s).2 = { s with workspace := (c.makeReportDir.runIn s).2.workspace } ∧
      ∀ f, (c.makeReportDir.runIn s).1 = .error f → ∃ e, f = .file e := by
  rw [runIn_makeReportDir]
  cases s.workspace.resolve c.reportDir with
  | error e => exact ⟨rfl, fun f hf => ⟨e, (Except.error.inj hf).symm⟩⟩
  | ok q =>
    refine ⟨rfl, fun f hf => ?_⟩
    obtain ⟨e, -, he⟩ := mapError_eq_error_iff.1 hf
    exact ⟨e, he.symm⟩

/-- Once the report of an earlier run has been removed, there is none. -/
theorem removeOldReport_cases (c : Config) (s : Session) :
    (c.removeOldReport.runIn s).2 =
        { s with workspace := (c.removeOldReport.runIn s).2.workspace } ∧
      ((∃ e, (c.removeOldReport.runIn s).1 = .error (.file e)) ∨
        ((c.removeOldReport.runIn s).1 = .ok () ∧
          (c.removeOldReport.runIn s).2.workspace.find? c.dataFile = .ok none)) := by
  simp only [removeOldReport, Work.runIn_bind, Work.runIn_makeDirectories, Work.pathExists,
    Work.runIn_inspect]
  generalize s.workspace.makeDirectories c.dataFile.parent = made
  obtain ⟨_ | _, w⟩ := made
  · exact ⟨rfl, .inl ⟨_, rfl⟩⟩
  · cases hexists : w.pathExists c.dataFile with
    | error e =>
      simp only [mapError_ok, mapError_error, hexists]
      exact ⟨trivial, .inl ⟨e, rfl⟩⟩
    | ok b =>
      obtain ⟨found, hfind, rfl⟩ := Workspace.pathExists_eq_ok_iff.1 hexists
      -- With nothing in the way there is no report; else it is removed.
      cases found with
      | none =>
        simp only [mapError_ok, hexists, Option.isSome_none, Bool.false_eq_true, if_false]
        exact ⟨rfl, .inr ⟨rfl, hfind⟩⟩
      | some node =>
        simp only [mapError_ok, hexists, Option.isSome_some, if_true, Work.runIn_change]
        cases hremove : w.removeFile c.dataFile with
        | error e => exact ⟨rfl, .inl ⟨e, rfl⟩⟩
        | ok w' => exact ⟨rfl, .inr ⟨rfl, Workspace.find?_removeFile hremove⟩⟩

/-- A run makes the directory of the reports first. -/
theorem runIn_createReport (c : Config) (runner : Runner) (s : Session) :
    (c.createReport runner).runIn s = match c.makeReportDir.runIn s with
      | (.ok (), s') => (c.removeOldReport >>= fun _ => c.report runner).runIn s'
      | (.error f, s') => (.error f, s') := by
  simp only [createReport, prepare, Work.runIn_bind]
  rcases c.makeReportDir.runIn s with ⟨_ | _, s'⟩ <;> rfl

/-- A run fails on a file operation, or comes to a session without a report from
    which it ends. -/
theorem createReport_ending (c : Config) (runner : Runner) (s : Session) :
    (∃ e, ((c.createReport runner).runIn s).1 = .error (.file e)) ∨
      ∃ s₀ : Session, s₀.started = s.started ∧ s₀.workspace.find? c.dataFile = .ok none ∧
        Ending c runner s₀ ((c.createReport runner).runIn s).1
          ((c.createReport runner).runIn s).2 := by
  rw [runIn_createReport]
  obtain ⟨hmade, hfile⟩ := makeReportDir_cases c s
  generalize c.makeReportDir.runIn s = made at *
  obtain ⟨_ | _, s₁⟩ := made
  · obtain ⟨e, rfl⟩ := hfile _ rfl
    exact .inl ⟨e, rfl⟩
  · simp only [Work.runIn_bind] at hmade ⊢
    obtain ⟨hremoved, hcases⟩ := removeOldReport_cases c s₁
    generalize c.removeOldReport.runIn s₁ = removed at *
    obtain ⟨r, s₂⟩ := removed
    rcases hcases with ⟨e, he⟩ | ⟨hok, hnone⟩
    · simp only at he
      subst he
      exact .inl ⟨e, rfl⟩
    · simp only at hok hnone hremoved
      subst hok
      refine .inr ⟨s₂, ?_, hnone, report_ending hnone⟩
      rw [hremoved, hmade]

end Config

end JavaBuild.Checkstyle
