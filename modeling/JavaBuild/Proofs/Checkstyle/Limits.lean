import JavaBuild.Proofs.Checkstyle.OwnFiles
import JavaBuild.Proofs.Checkstyle.Run
import JavaBuild.Proofs.Checkstyle.Tally

/-!
# What a run is judged by

The result of a run has the errors and warnings of the report that is there in the end, or
none if no source has been chosen (`createReport_counts`). Which limits they exceed is told
together with the directory of the reports, which can still be resolved after the run
(`resolve_of_createReport`). If the report has further errors, and all else is as it was,
so has the result (`createReport_extends`).
-/

namespace JavaBuild.Checkstyle

open Relation (ReflTransGen)

variable {c : Config} {runner runner' : Runner} {s s' : Session} {w w' : Workspace}
  {l : Location} {p : Path} {r : Result} {sources : List Path}

namespace Config

/-! ## Directories during a run -/

/-- No step of a run removes a directory. -/
theorem RunStep.directory (h : c.RunStep w w') (hl : w.files.get? l = some .directory) :
    w'.files.get? l = some .directory := by
  cases h with
  | makeDirectory p h => exact (Workspace.makeDirectory_grows h).directory hl
  | writeData bytes h =>
    rw [Workspace.get?_writeFile h, if_neg ?_, hl]
    rintro rfl
    obtain ⟨m, hm, -, hallows, -⟩ := Workspace.writeFile_eq_ok_iff.1 h
    have hfree := hallows.2.2.2
    rw [Workspace.place_of_locate hm, FileTree.isDirectory_iff.2 hl] at hfree
    simp [FileNode.isDirectory] at hfree
  | removeData h =>
    obtain ⟨m, bytes, hi, rfl⟩ := Workspace.removeFile_eq_ok_iff.1 h
    have hfile := Workspace.get?_of_inspect hi
    refine (Workspace.get?_prune_file hfile l).trans ?_
    rw [if_neg ?_, hl]
    rintro rfl
    rw [hl] at hfile
    cases hfile

theorem starts_of_runSteps (h : ReflTransGen c.RunStep w w') (hs : w.Starts p) :
    w'.Starts p := by
  induction h with
  | refl => exact hs
  | tail _ hstep ih =>
    have hhere := (hstep.step : c.Step [] _ _).here
    rw [Workspace.Starts, Workspace.start_congr hhere]
    exact hstep.directory ih

/-- After a run the directory of the reports can be resolved. -/
theorem resolve_of_createReport (h : (c.createReport runner).runIn s = (.ok r, s')) :
    ∃ q, s'.workspace.resolve c.reportDir = .ok q := by
  obtain ⟨_, s₁, hprepare, -⟩ := Work.runIn_bind_eq_ok h
  obtain ⟨_, s₂, hmake, -⟩ := Work.runIn_bind_eq_ok hprepare
  rw [runIn_makeReportDir] at hmake
  cases hresolve : s.workspace.resolve c.reportDir with
  | error e =>
    rw [hresolve] at hmake
    cases hmake
  | ok q =>
    -- What it is resolved from is a directory at first, and stays one.
    obtain ⟨hnul, hstarts, -⟩ := Workspace.resolve_eq_ok_iff.1 hresolve
    have hsteps := c.goesByRun_createReport runner s
    rw [Work.GoesBy, h] at hsteps
    exact ⟨_, Workspace.resolve_eq_ok_iff.2 ⟨hnul, starts_of_runSteps hsteps hstarts, rfl⟩⟩

/-! ## Errors and warnings -/

/-- The sources that are chosen once there is room for the reports. -/
def Selects (c : Config) (s : Session) (sources : List Path) : Prop :=
  ∃ s', c.prepare.runIn s = (.ok (), s') ∧ c.selectSources s'.workspace = .ok sources

/-- The errors and warnings of a run from one session to another: those of the report at its
    end, and none if no source is chosen. -/
inductive Counts (c : Config) (s s' : Session) : Nat → Nat → Prop
  | nothing (selects : c.Selects s []) : Counts c s s' 0 0
  | reported {sources : List Path} {bytes : ByteArray} {root : Xml.Element}
    (selects : c.Selects s sources) (nonempty : sources ≠ [])
    (read : s'.workspace.readFile c.dataFile = .ok bytes)
    (parsed : Xml.readDocument bytes = .ok root) :
    Counts c s s' (errorsIn root) (warningsIn root)

/-- A command that gives a result leaves a report that has it. -/
theorem runOn_eq_ok (h : (c.runOn runner sources).runIn s = (.ok r, s')) :
    ∃ bytes, s'.workspace.readFile c.dataFile = .ok bytes ∧
      Result.ofBytes c.dataFile bytes = .ok r := by
  obtain ⟨command, s₁, -, h⟩ := Work.runIn_bind_eq_ok h
  obtain ⟨_, s₂, -, h⟩ := Work.runIn_bind_eq_ok h
  cases hended : runner command with
  | failed report f =>
    simp only [hended] at h
    obtain ⟨_, s₃, -, h⟩ := Work.runIn_bind_eq_ok h
    cases h
  | ended report status errors =>
    simp only [hended] at h
    obtain ⟨_, s₃, -, h⟩ := Work.runIn_bind_eq_ok h
    obtain ⟨found, s₄, -, h⟩ := Work.runIn_bind_eq_ok h
    cases found with
    | false => cases h
    | true =>
      obtain ⟨rfl, bytes, hread, hr⟩ := loadReport_eq_ok h
      exact ⟨bytes, hread, hr⟩

theorem ofBytes_eq_ok {data : Path} {bytes : ByteArray}
    (h : Result.ofBytes data bytes = .ok r) :
    ∃ root, Xml.readDocument bytes = .ok root ∧ Result.ofReport root = .ok r := by
  rw [Result.ofBytes] at h
  split at h
  · cases h
  · rename_i root hroot
    exact ⟨root, hroot, h⟩

/-- The result of a run has its errors and warnings. -/
theorem createReport_counts (h : (c.createReport runner).runIn s = (.ok r, s')) :
    c.Counts s s' r.errors r.warnings := by
  obtain ⟨_, s₁, hprepare, hreport⟩ := Work.runIn_bind_eq_ok h
  simp only [report, Work.runIn_bind, Work.runIn_print, Work.runIn_get, Work.runIn_ofExcept]
    at hreport
  cases hsources : c.selectSources s₁.workspace with
  | error f =>
    rw [hsources] at hreport
    cases hreport
  | ok sources =>
    simp only [hsources, mapError_ok] at hreport
    have hselects : c.Selects s sources := ⟨s₁, hprepare, hsources⟩
    -- Without sources there is nothing to count, else the report has been read from its file.
    cases sources with
    | nil =>
      obtain ⟨_, s₂, -, hnothing⟩ := Work.runIn_bind_eq_ok hreport
      obtain ⟨_, s₃, -, hnothing⟩ := Work.runIn_bind_eq_ok hnothing
      cases hnothing
      exact .nothing hselects
    | cons source sources =>
      obtain ⟨bytes, hread, hr⟩ := runOn_eq_ok hreport
      obtain ⟨root, hroot, hr⟩ := ofBytes_eq_ok hr
      obtain ⟨herrors, hwarnings⟩ := ofReport_counts hr
      rw [herrors, hwarnings]
      exact .reported hselects (List.cons_ne_nil _ _) hread hroot

/-! ## Limits -/

/-- There are more errors or warnings than allowed. -/
def Exceeded (c : Config) (errors warnings : Nat) : Prop :=
  c.maxErrors < errors ∨ c.maxWarnings < warnings

theorem isExceededBy_iff : c.isExceededBy r = true ↔ c.Exceeded r.errors r.warnings := by
  simp [isExceededBy, Exceeded]

/-- With more errors and warnings, limits are still exceeded. -/
theorem Exceeded.mono {errors errors' warnings warnings' : Nat} (h : c.Exceeded errors warnings)
    (herrors : errors ≤ errors') (hwarnings : warnings ≤ warnings') :
    c.Exceeded errors' warnings' := by
  unfold Exceeded at h ⊢
  omega

theorem runIn_checkLimits {q : Path} (hq : s.workspace.resolve c.reportDir = .ok q)
    (r : Result) : (c.checkLimits r).runIn s =
      if c.isExceededBy r then
        if c.failsOnViolation then (.error (.violations q), s)
        else (.ok (), { s with err := s.err ++ [s!"WARNING: {(Failure.violations q).message}"] })
      else (.ok (), s) := by
  have hreports : c.reportTo s.workspace none = .ok q := hq
  rw [checkLimits]
  split
  · simp only [Work.runIn_bind, reportsHere, Work.runIn_inspect, hreports, mapError_ok]
    split <;> rfl
  · rfl

/-! ## Further errors -/

end Config

/-- The second of two outcomes is the same, or a report that has further errors. -/
inductive Outcome.Extends : Outcome → Outcome → Prop
  | same (o : Outcome) : Extends o o
  | reports {bytes bytes' : ByteArray} {status status' : Int} {errors errors' : String}
    {root root' : Xml.Element} (read : Xml.readDocument bytes = .ok root)
    (read' : Xml.readDocument bytes' = .ok root')
    (more : MoreErrors root.children root'.children) :
    Extends (.ended (some bytes) status errors) (.ended (some bytes') status' errors')

/-- Two results are the same, or read from reports the second of which has further errors. -/
inductive FurtherResult : Except Failure Result → Except Failure Result → Prop
  | same (x : Except Failure Result) : FurtherResult x x
  | read {root root' : Xml.Element} (more : MoreErrors root.children root'.children) :
    FurtherResult (Result.ofReport root) (Result.ofReport root')

namespace Config

theorem runOn_extends (h : ∀ command, (runner command).Extends (runner' command))
    (sources : List Path) (s : Session) : FurtherResult ((c.runOn runner sources).runIn s).1
      ((c.runOn runner' sources).runIn s).1 := by
  cases hcommand : c.command sources with
  | error f =>
    simp only [runOn, Work.runIn_bind, Work.runIn_ofExcept, hcommand]
    exact .same _
  | ok command =>
    generalize hended : runner command = o
    generalize hended' : runner' command = o'
    have hextends : o.Extends o' := by
      rw [← hended, ← hended']
      exact h command
    cases hextends with
    | same =>
      simp only [runOn, Work.runIn_bind, Work.runIn_ofExcept, hcommand, mapError_ok,
        Work.runIn_start, hended, hended']
      exact .same _
    | @reports bytes bytes' _ _ _ _ root root' hread hread' more =>
      rw [runOn_of_report hcommand hended, runOn_of_report hcommand hended']
      -- Either both reports can be written or none, as this does not depend on what is in them.
      cases hwrite : s.workspace.writeFile c.dataFile bytes with
      | error e =>
        rw [Workspace.writeFile_eq_error bytes' hwrite]
        cases e <;> exact .same _
      | ok w =>
        cases hwrite' : s.workspace.writeFile c.dataFile bytes' with
        | error e =>
          rw [Workspace.writeFile_eq_error bytes hwrite'] at hwrite
          cases hwrite
        | ok w' =>
          simp only [Result.ofBytes, hread, hread']
          exact .read more

/-- If commands leave further errors in their reports, so do runs in their results. -/
theorem createReport_extends (h : ∀ command, (runner command).Extends (runner' command))
    (c : Config) (s : Session) : FurtherResult ((c.createReport runner).runIn s).1
      ((c.createReport runner').runIn s).1 := by
  simp only [createReport, Work.runIn_bind]
  rcases c.prepare.runIn s with ⟨f | _, s₁⟩
  · exact .same _
  · simp only [report, Work.runIn_bind, Work.runIn_print, Work.runIn_get, Work.runIn_ofExcept]
    cases c.selectSources s₁.workspace with
    | error f => exact .same _
    | ok sources =>
      simp only [mapError_ok]
      split
      · exact .same _
      · exact runOn_extends h sources _

end Config

end JavaBuild.Checkstyle
