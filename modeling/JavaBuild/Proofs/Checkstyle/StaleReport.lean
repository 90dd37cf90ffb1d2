import JavaBuild.Proofs.Checkstyle.Run
import JavaBuild.Proofs.FileTree.Difference

/-!
# The report of an earlier run

A report that an earlier run has left does not influence a run: two runs that
begin with the same but for this file (`Session.AlikeBut`) come to the same result,
start the same commands and print the same lines (`createReport_of_alikeBut`).

They also leave the same files, unless there is no room for the directory of the
reports. In that case a run fails before it has looked at the old report, which
stays as it is.
-/

namespace JavaBuild

/-- The session without the file at a path, if there is one. -/
def Session.without (s : Session) (p : Path) : Session :=
  { s with workspace := s.workspace.without p }

/-- Two sessions are the same but for the file that may be at a path. -/
def Session.AlikeBut (p : Path) (s t : Session) : Prop := s.without p = t.without p

theorem Session.AlikeBut.workspace {p : Path} {s t : Session} (h : s.AlikeBut p t) :
    s.workspace.without p = t.workspace.without p :=
  congrArg Session.workspace h

theorem Session.AlikeBut.frame {p : Path} {s t : Session} (h : s.AlikeBut p t) :
    { s with workspace := t.workspace } = t := by
  obtain ⟨w, out, err, started⟩ := s
  obtain ⟨w', out', err', started'⟩ := t
  obtain ⟨-, rfl, rfl, rfl⟩ := Session.mk.inj h
  rfl

namespace Checkstyle.Config

open Workspace (DifferAt Grows)

variable {c : Config} {runner : Runner} {s t : Session} {place : Location}

/-- Where there is room for the report, the one of an earlier run is removed. -/
theorem removeOldReport_of_hasRoom (h : s.workspace.HasRoom c.dataFile) :
    c.removeOldReport.runIn s = (.ok (), s.without c.dataFile) := by
  obtain ⟨m, hm⟩ := Workspace.inspect_parent h.located h.parts_ne
  simp only [removeOldReport, Work.runIn_bind, Work.runIn_makeDirectories,
    Workspace.makeDirectories_of_inspect hm, mapError_ok, Work.pathExists,
    Work.runIn_inspect, Session.without]
  rcases h.cases with ⟨hfind, -, hw⟩ | ⟨bytes, hfind, hremove⟩
  · rw [Workspace.pathExists_eq_ok_iff.2 ⟨_, hfind, rfl⟩, hw]
    rfl
  · rw [Workspace.pathExists_eq_ok_iff.2 ⟨_, hfind, rfl⟩]
    simp only [mapError_ok, Option.isSome_some, if_true, Work.runIn_change, hremove]

/-- Making the directory of the reports makes directories on the way to it. -/
theorem makeReportDir_grows (c : Config) (s : Session) :
    Grows (· <+: s.workspace.place c.reportDir) s.workspace
      (c.makeReportDir.runIn s).2.workspace := by
  rw [runIn_makeReportDir]
  cases hq : s.workspace.resolve c.reportDir with
  | error e => exact .refl _ _
  | ok q =>
    exact (Workspace.makeDirectories_grows s.workspace q).mono fun l hl =>
      Workspace.prefix_of_mem_route_resolve hq hl

/-- The directory of the reports is made alike whatever is at a location that it is
    not below. -/
theorem makeReportDir_differAt (h : DifferAt place s.workspace t.workspace)
    (hp : ¬place <+: s.workspace.place c.reportDir) :
    (c.makeReportDir.runIn t).1 = (c.makeReportDir.runIn s).1 ∧
      DifferAt place (c.makeReportDir.runIn s).2.workspace
        (c.makeReportDir.runIn t).2.workspace := by
  rw [runIn_makeReportDir, runIn_makeReportDir, h.resolve]
  cases hq : s.workspace.resolve c.reportDir with
  | error e => exact ⟨rfl, h⟩
  | ok q =>
    obtain ⟨hr, hd⟩ := h.makeDirectories fun hm => hp (Workspace.prefix_of_mem_route_resolve hq hm)
    exact ⟨congrArg (Except.mapError Failure.file) hr, hd⟩

/-- A run has failed on a file operation, with the report of an earlier run as it was. -/
structure Blocked (c : Config) (runner : Runner) (s : Session) (f : Failure) : Prop where
  operation : ∃ e, f = .file e
  result : ((c.createReport runner).runIn s).1 = .error f
  kept : ((c.createReport runner).runIn s).2.workspace.files.get?
    (s.workspace.place c.dataFile) = s.workspace.files.get? (s.workspace.place c.dataFile)

/-- Runs that begin in two sessions come to the same. -/
structure SameRun (c : Config) (runner : Runner) (s t : Session) : Prop where
  result : ((c.createReport runner).runIn s).1 = ((c.createReport runner).runIn t).1
  /-- Lines, commands and all files but the report are the same, … -/
  after : ((c.createReport runner).runIn s).2.AlikeBut c.dataFile
    ((c.createReport runner).runIn t).2
  /-- … and the report, too, once there is room for the directory of the reports. -/
  made : (c.makeReportDir.runIn s).1 = .ok () →
    (c.createReport runner).runIn s = (c.createReport runner).runIn t
  blocked : ∀ f, (c.makeReportDir.runIn s).1 = .error f →
    c.Blocked runner s f ∧ c.Blocked runner t f

/-- After a failure of Checkstyle there is no report, or the one that the command of
    this run has written. -/
def NothingStale (c : Config) (runner : Runner) (s : Session) : Prop :=
  ∀ e, ((c.createReport runner).runIn s).1 = .error (.checkstyle e) →
    ((c.createReport runner).runIn s).2.workspace.find? c.dataFile = .ok none ∨
      ∃ command bytes, (runner command).report? = some bytes ∧
        ((c.createReport runner).runIn s).2.started = s.started ++ [command] ∧
        ((c.createReport runner).runIn s).2.workspace.find? c.dataFile = .ok (some (.file bytes))

/-- A run ends where the directory of the reports cannot be made. -/
theorem createReport_of_error (runner : Runner) {f : Failure}
    (hf : (c.makeReportDir.runIn s).1 = .error f) :
    (c.createReport runner).runIn s = (.error f, (c.makeReportDir.runIn s).2) := by
  rw [runIn_createReport]
  generalize c.makeReportDir.runIn s = made at *
  obtain ⟨r, s'⟩ := made
  simp only at hf
  rw [hf]

theorem blocked_of_makeReportDir (runner : Runner) {f : Failure}
    (hf : (c.makeReportDir.runIn s).1 = .error f)
    (hp : ¬s.workspace.place c.dataFile <+: s.workspace.place c.reportDir) :
    c.Blocked runner s f := by
  have hrun := createReport_of_error runner hf
  refine ⟨(makeReportDir_cases c s).2 f hf, by rw [hrun], ?_⟩
  rw [hrun]
  exact (makeReportDir_grows c s).get?_of_not hp

/-- Sessions that are the same but for the report of an earlier run still are when
    the directory of the reports has been made. -/
theorem makeReportDir_alikeBut
    (h : DifferAt (s.workspace.place c.dataFile) s.workspace t.workspace)
    (hroom : s.workspace.HasRoom c.dataFile)
    (hp : ¬s.workspace.place c.dataFile <+: s.workspace.place c.reportDir)
    (hframe : { s with workspace := t.workspace } = t) :
    (c.makeReportDir.runIn s).2.AlikeBut c.dataFile (c.makeReportDir.runIn t).2 := by
  have hgrows := makeReportDir_grows c s
  obtain ⟨-, hd⟩ := makeReportDir_differAt h hp
  rw [← hgrows.place] at hd
  have hw := hd.without (hgrows.hasRoom hroom hp)
  rw [Session.AlikeBut, Session.without, Session.without, hw, (makeReportDir_cases c s).1,
    (makeReportDir_cases c t).1, ← hframe]

/-- When there is room for the directory of the reports, what is at the place of the
    report makes no difference. -/
theorem createReport_eq_of_differAt (runner : Runner)
    (h : DifferAt (s.workspace.place c.dataFile) s.workspace t.workspace)
    (hroom : s.workspace.HasRoom c.dataFile)
    (hp : ¬s.workspace.place c.dataFile <+: s.workspace.place c.reportDir)
    (hframe : { s with workspace := t.workspace } = t)
    (hok : (c.makeReportDir.runIn s).1 = .ok ()) :
    (c.createReport runner).runIn s = (c.createReport runner).runIn t := by
  have halike := makeReportDir_alikeBut h hroom hp hframe
  obtain ⟨hr, hd⟩ := makeReportDir_differAt h hp
  have hgrows := makeReportDir_grows c s
  have hs := hgrows.hasRoom hroom hp
  have ht := (hgrows.place c.dataFile ▸ hd).hasRoom hs
  rw [runIn_createReport, runIn_createReport]
  generalize c.makeReportDir.runIn s = run₁ at *
  generalize c.makeReportDir.runIn t = run₂ at *
  obtain ⟨r₁, s₁⟩ := run₁
  obtain ⟨r₂, t₁⟩ := run₂
  simp only at hok hr
  subst hok hr
  simp only [Work.runIn_bind, removeOldReport_of_hasRoom hs, removeOldReport_of_hasRoom ht]
  rw [show s₁.without c.dataFile = t₁.without c.dataFile from halike]

theorem nothingStale (c : Config) (runner : Runner) (s : Session) : c.NothingStale runner s := by
  intro e he
  rcases createReport_ending c runner s with ⟨f, hf⟩ | ⟨s₀, hstarted, hnone, hend⟩
  · rw [hf] at he
    cases he
  · generalize (c.createReport runner).runIn s = run at *
    obtain ⟨r, s'⟩ := run
    simp only at he hend ⊢
    subst he
    cases hend with
    | failed kept => exact .inl (kept ▸ hnone)
    | reported h =>
      obtain ⟨command, status, errors, hended, hrun⟩ := h.ended
      obtain ⟨l, hl⟩ := Workspace.inspect_writeFile h.written
      exact .inr ⟨command, _, by rw [hended]; rfl, hstarted ▸ hrun,
        Workspace.find?_of_inspect hl⟩
    | unread failed started written result =>
      obtain ⟨l, hl⟩ := Workspace.inspect_writeFile written
      exact .inr ⟨_, _, by rw [failed]; rfl, hstarted ▸ started, Workspace.find?_of_inspect hl⟩

/-- The report of an earlier run does not influence a run: runs that begin with the
    same but for this file come to the same, unless the directory of the reports is
    at or below it. In particular, a failure of Checkstyle leaves nothing stale. -/
theorem createReport_of_alikeBut (h : s.AlikeBut c.dataFile t)
    (hp : ¬s.workspace.place c.dataFile <+: s.workspace.place c.reportDir) :
    c.SameRun runner s t ∧ c.NothingStale runner s := by
  refine ⟨?_, nothingStale c runner s⟩
  rcases Workspace.eq_or_differAt h.workspace with hw | ⟨hd, hroom⟩
  · obtain rfl : s = t := by
      rw [← h.frame, ← hw]
    exact ⟨rfl, rfl, fun _ => rfl, fun f hf =>
      ⟨blocked_of_makeReportDir runner hf hp, blocked_of_makeReportDir runner hf hp⟩⟩
  · -- What follows depends on whether there is room for the directory of the reports.
    have hr := (makeReportDir_differAt hd hp).1
    cases hmade : (c.makeReportDir.runIn s).1 with
    | ok =>
      have heq := createReport_eq_of_differAt runner hd hroom hp h.frame hmade
      refine ⟨congrArg Prod.fst heq, ?_, fun _ => heq, fun f hf => ?_⟩
      · rw [heq]
        rfl
      · rw [hmade] at hf
        cases hf
    | error f =>
      have hpt : ¬t.workspace.place c.dataFile <+: t.workspace.place c.reportDir := by
        rw [hd.place_eq, hd.place_eq]
        exact hp
      have hs := blocked_of_makeReportDir runner hmade hp
      have ht := blocked_of_makeReportDir runner (hr.trans hmade) hpt
      refine ⟨hs.result.trans ht.result.symm, ?_, fun hok => ?_, fun f' hf => ?_⟩
      · rw [createReport_of_error runner hmade, createReport_of_error runner (hr.trans hmade)]
        exact makeReportDir_alikeBut hd hroom hp h.frame
      · rw [hmade] at hok
        cases hok
      · rw [hmade] at hf
        cases hf
        exact ⟨hs, ht⟩

/-- A configuration by which the working directory is checked. -/
def sample (reportDir : String) : Config where
  reportDir := .ofString reportDir
  dataFile := .ofString "d.xml"
  rules := some (.ofString "rules.xml")
  sources := [.here]
  classpath := [.ofString "c.jar"]

/-- A command that writes no report does not end with the one of an earlier run. -/
theorem createReport_beside_old_report :
    (⟨.holding [("A.java", ""), ("d.xml", "old")], [], [], []⟩ : Session).AlikeBut
        (sample "r").dataFile ⟨.holding [("A.java", "")], [], [], []⟩ ∧
      ¬(Workspace.holding [("A.java", ""), ("d.xml", "old")]).place (sample "r").dataFile <+:
        (Workspace.holding [("A.java", ""), ("d.xml", "old")]).place (sample "r").reportDir ∧
      (sample "r").SameRun (fun _ => .ended none 1 "no rules")
        ⟨.holding [("A.java", ""), ("d.xml", "old")], [], [], []⟩
        ⟨.holding [("A.java", "")], [], [], []⟩ ∧
      (sample "r").NothingStale (fun _ => .ended none 1 "no rules")
        ⟨.holding [("A.java", ""), ("d.xml", "old")], [], [], []⟩ :=
  ⟨rfl, by decide +kernel, createReport_of_alikeBut rfl (by decide +kernel)⟩

/-- The files that runs leave need not be the same: where a file is in the way of the
    directory of the reports, the report of an earlier run stays. -/
theorem not_forall_createReport_eq :
    ¬∀ (c : Config) (runner : Runner) (s t : Session), s.AlikeBut c.dataFile t →
      ¬s.workspace.place c.dataFile <+: s.workspace.place c.reportDir →
      (c.createReport runner).runIn s = (c.createReport runner).runIn t := by
  intro h
  have hrun := h (sample "f/r") (fun _ => .ended none 1 "")
    ⟨.holding [("f", "x"), ("d.xml", "stale")], [], [], []⟩ ⟨.holding [("f", "x")], [], [], []⟩
    rfl (by decide +kernel)
  have hfiles := congrArg (fun run => (run.2.workspace.files.get? ["w", "d.xml"]).isSome) hrun
  revert hfiles
  decide +kernel

end Checkstyle.Config

end JavaBuild
