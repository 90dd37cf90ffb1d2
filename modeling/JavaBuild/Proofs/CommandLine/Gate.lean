import JavaBuild.Proofs.Checkstyle.Limits
import JavaBuild.Proofs.CommandLine.Cleaning

/-!
# The exit status of a check

A check runs Checkstyle by the configuration of the settings, and its exit status tells
whether the violations are within the limits. The status is one, with an error told, if there
are too many of them and the configuration is not lenient, or if the run fails in a way that
is told; else it is zero, and the errors and warnings are told (`checked_gate`). What fails
for violations still does so with further ones.
-/

namespace JavaBuild.CommandLine

open Checkstyle (Config Result Tools)

variable {tools tools' : Tools} {settings : Path} {projects : List Path} {c : Config}
  {s s₁ s₂ : Session} {r : Result} {f : Failure}

/-- The configuration of a run, by a settings file and projects. -/
def configured (settings : Path) (projects : List Path) : Work Config := do
  runConfig (← loadSettings settings) projects

/-- What a check comes to. -/
def checked (tools : Tools) (settings : Path) (projects : List Path) (s : Session) :
    Except Failure Nat × Session :=
  (Invocation.run tools ⟨settings, .reports .check projects⟩).runIn s

/-- The line that tells of errors and warnings. -/
def countLine (errors warnings : Nat) : String :=
  s!"Checkstyle: {errors} errors, {warnings} warnings"

/-- The message about too many of them. -/
def limitMessage (reports : Path) : String :=
  s!"Too many checkstyle errors or warnings see reports in '{reports}'"

/-- What a check of so many errors and warnings comes to, once the run has ended. -/
inductive Verdict (c : Config) (s : Session) (reports : Path) (errors warnings : Nat) :
    Except Failure Nat × Session → Prop
  | failed (strict : c.failsOnViolation = true) (exceeded : c.Exceeded errors warnings) :
    Verdict c s reports errors warnings
      (.ok 1, { s with err := s.err ++ [s!"ERROR: {limitMessage reports}"] })
  /-- There are too many, but the configuration is lenient. -/
  | tolerated (lenient : c.failsOnViolation = false) (exceeded : c.Exceeded errors warnings) :
    Verdict c s reports errors warnings
      (.ok 0, { s with
        err := s.err ++ [s!"WARNING: {limitMessage reports}"]
        out := s.out ++ [countLine errors warnings] })
  | passed (within : ¬c.Exceeded errors warnings) :
    Verdict c s reports errors warnings
      (.ok 0, { s with out := s.out ++ [countLine errors warnings] })

/-- Run Checkstyle, look at the limits, and tell the errors and warnings. -/
def judge (tools : Tools) (c : Config) : Work Unit := do
  let r ← c.createReport tools.runner
  c.checkLimits r
  Work.print (countLine r.errors r.warnings)

theorem checked_eq (tools : Tools) (h : (configured settings projects).runIn s = (.ok c, s₁)) :
    checked tools settings projects s = (exitStatus (judge tools c)).runIn s₁ := by
  have hperform : Invocation.perform tools ⟨settings, .reports .check projects⟩ =
      configured settings projects >>= judge tools := by
    simp only [Invocation.perform, Request.run, report, configured, bind_assoc]
    rfl
  rw [checked, Invocation.run, hperform, runIn_exitStatus, runIn_exitStatus, Work.runIn_bind, h]

/-- A run that gives a result is judged by the limits. -/
theorem checked_of_ok (h : (configured settings projects).runIn s = (.ok c, s₁))
    (hr : (c.createReport tools.runner).runIn s₁ = (.ok r, s₂)) :
    ∃ q, s₂.workspace.resolve c.reportDir = .ok q ∧
      Verdict c s₂ q r.errors r.warnings (checked tools settings projects s) := by
  obtain ⟨q, hq⟩ := Config.resolve_of_createReport hr
  refine ⟨q, hq, ?_⟩
  rw [checked_eq tools h, runIn_exitStatus]
  simp only [judge, Work.runIn_bind, hr, Config.runIn_checkLimits hq]
  cases hexceeded : c.isExceededBy r with
  | false =>
    have hwithin : ¬c.Exceeded r.errors r.warnings := by
      rw [← Config.isExceededBy_iff, hexceeded]
      exact Bool.false_ne_true
    exact .passed hwithin
  | true =>
    have hlimits := Config.isExceededBy_iff.1 hexceeded
    cases hstrict : c.failsOnViolation with
    | true => exact .failed hstrict hlimits
    | false => exact .tolerated hstrict hlimits

/-- A run that fails in a way that is told has the exit status one. -/
theorem checked_of_error (h : (configured settings projects).runIn s = (.ok c, s₁))
    (hf : (c.createReport tools.runner).runIn s₁ = (.error f, s₂)) :
    checked tools settings projects s =
      if f.isReported then (.ok 1, { s₂ with err := s₂.err ++ [s!"ERROR: {f.message}"] })
      else (.error f, s₂) := by
  rw [checked_eq tools h, runIn_exitStatus]
  simp only [judge, Work.runIn_bind, hf]

theorem Verdict.eq_one_iff {reports : Path} {errors warnings : Nat}
    {run : Except Failure Nat × Session} (h : Verdict c s reports errors warnings run) :
    run.1 = .ok 1 ↔ c.failsOnViolation = true ∧ c.Exceeded errors warnings := by
  cases h with
  | failed strict exceeded => exact iff_of_true rfl ⟨strict, exceeded⟩
  | tolerated lenient exceeded => simp [lenient]
  | passed within => simp [within]

/-- Further errors in reports do not mend a check that fails. -/
theorem checked_extends (h : (configured settings projects).runIn s = (.ok c, s₁))
    (hextends : ∀ command, (tools.runner command).Extends (tools'.runner command))
    (hone : (checked tools settings projects s).1 = .ok 1) :
    (checked tools' settings projects s).1 = .ok 1 := by
  have hfurther := Config.createReport_extends hextends c s₁
  generalize hrun : (c.createReport tools.runner).runIn s₁ = run at hfurther
  generalize hrun' : (c.createReport tools'.runner).runIn s₁ = run' at hfurther
  obtain ⟨x, s₂⟩ := run
  obtain ⟨x', s₂'⟩ := run'
  simp only at hfurther
  cases hfurther with
  | same =>
    -- The results are the same, though the sessions that they leave need not be.
    cases x with
    | error f =>
      rw [checked_of_error h hrun] at hone
      rw [checked_of_error h hrun']
      split at hone
      · rename_i hreported
        rw [if_pos hreported]
      · cases hone
    | ok r =>
      obtain ⟨q, -, hverdict⟩ := checked_of_ok h hrun
      obtain ⟨q', -, hverdict'⟩ := checked_of_ok h hrun'
      rwa [hverdict'.eq_one_iff, ← hverdict.eq_one_iff]
  | @read root root' more =>
    generalize hx : Result.ofReport root = x at hrun
    cases x with
    | error f =>
      -- The first run fails in a way that is not told, with no exit status at all.
      obtain ⟨e, -, ⟨-, -, -⟩⟩ := Checkstyle.ofReport_eq_error hx
      rw [checked_of_error h hrun] at hone
      cases hone
    | ok r =>
      obtain ⟨r', hr', herrors, hwarnings⟩ := Checkstyle.ofReport_of_moreErrors more hx
      rw [hr'] at hrun'
      obtain ⟨q, -, hverdict⟩ := checked_of_ok h hrun
      obtain ⟨q', -, hverdict'⟩ := checked_of_ok h hrun'
      rw [hverdict.eq_one_iff] at hone
      rw [hverdict'.eq_one_iff]
      exact ⟨hone.1, hone.2.mono herrors hwarnings⟩

/-- A check is a gate: if settings and projects give a configuration and the run a result, the
    exit status is one, with an error told, if and only if there are more errors or warnings
    than allowed and the configuration is not lenient, and else zero, with errors and warnings
    told. It is one, too, if the run fails in a way that is told. Further errors in
    reports never turn it from one into zero. -/
theorem checked_gate (tools : Tools)
    (h : (configured settings projects).runIn s = (.ok c, s₁)) :
    (∀ r s₂, (c.createReport tools.runner).runIn s₁ = (.ok r, s₂) →
      ∃ errors warnings q, c.Counts s₁ s₂ errors warnings ∧
        s₂.workspace.resolve c.reportDir = .ok q ∧
        Verdict c s₂ q errors warnings (checked tools settings projects s)) ∧
    (∀ f s₂, (c.createReport tools.runner).runIn s₁ = (.error f, s₂) → f.isReported = true →
      checked tools settings projects s =
        (.ok 1, { s₂ with err := s₂.err ++ [s!"ERROR: {f.message}"] })) ∧
    ∀ tools', (∀ command, (tools.runner command).Extends (tools'.runner command)) →
      (checked tools settings projects s).1 = .ok 1 →
        (checked tools' settings projects s).1 = .ok 1 := by
  refine ⟨fun r s₂ hr => ?_, fun f s₂ hf hreported => ?_, fun tools' => checked_extends h⟩
  · obtain ⟨q, hq, hverdict⟩ := checked_of_ok h hr
    exact ⟨_, _, q, Config.createReport_counts hr, hq, hverdict⟩
  · rw [checked_of_error h hf, if_pos hreported]

/-! ## Samples -/

/-- A report of one violation. -/
def oneViolation : String :=
  "<checkstyle><file>\n<error/></file></checkstyle>"

/-- The same report with two more, one of them a warning. -/
def moreViolations : String :=
  "<checkstyle><file><error severity=\"warning\"/><error/><error line=\"2\"/></file></checkstyle>"

/-- Tools by which a run of Checkstyle writes a report. -/
def writing (report : String) : Tools where
  runner _ := .ended (some report.toUTF8) 0 ""
  engine := Stylesheet.engine

/-- Settings by which one source is checked. -/
def gateSample : Session where
  workspace :=
    { here := ["w"], home := []
      files := treeOf
        [(["w"], .directory),
          (["w", "build.toml"], .file
            "[checkstyle]\nconfig=\"c\"\nclasspath=\"c.jar\"\nsources=\"src\"".toUTF8),
          (["w", "src"], .directory),
          (["w", "src", "A.java"], .file .empty)] }

theorem extends_moreViolations (command : List String) :
    ((writing oneViolation).runner command).Extends ((writing moreViolations).runner command) := by
  obtain ⟨root, hroot, hchildren⟩ : ∃ root, Xml.readDocument oneViolation.toUTF8 = .ok root ∧
      root.children = [⟨.plain "file", [], [.text "\n", .element (.plain "error") [] []]⟩] := by
    decide +kernel
  obtain ⟨root', hroot', hchildren'⟩ : ∃ root, Xml.readDocument moreViolations.toUTF8 = .ok root ∧
      root.children = [⟨.plain "file", [],
        [.element (.plain "error") [⟨.plain "severity", "warning"⟩] [],
          .element (.plain "error") [] [],
          .element (.plain "error") [⟨.plain "line", "2"⟩] []]⟩] := by
    decide +kernel
  refine .reports hroot hroot' ?_
  rw [hchildren, hchildren']
  refine .same rfl rfl ?_ .nil
  exact .added rfl (by decide +kernel) (.same rfl rfl .nil (.added rfl (by decide +kernel) .nil))

theorem checked_gate_sample : ∃ c s₁,
    (configured defaultSettingsFile []).runIn gateSample = (.ok c, s₁) ∧
    (∃ r s₂ errors warnings q,
      (c.createReport (writing oneViolation).runner).runIn s₁ = (.ok r, s₂) ∧
      c.Counts s₁ s₂ errors warnings ∧
      Verdict c s₂ q errors warnings
        (checked (writing oneViolation) defaultSettingsFile [] gateSample)) ∧
    (∃ f s₂, (c.createReport idleTools.runner).runIn s₁ = (.error f, s₂) ∧ f.isReported = true ∧
      (checked idleTools defaultSettingsFile [] gateSample).1 = .ok 1) ∧
    (checked (writing oneViolation) defaultSettingsFile [] gateSample).1 = .ok 1 ∧
    (checked (writing moreViolations) defaultSettingsFile [] gateSample).1 = .ok 1 := by
  have hresult : ((configured defaultSettingsFile [] >>= fun c =>
      c.createReport (writing oneViolation).runner >>= fun r =>
        pure (c.failsOnViolation, c.isExceededBy r)).runIn gateSample).1.toOption =
      some (true, true) := by
    decide +kernel
  have hfailure : (match ((configured defaultSettingsFile [] >>= fun c =>
      c.createReport idleTools.runner).runIn gateSample).1 with
      | .ok _ => false
      | .error f => f.isReported) = true := by
    decide +kernel
  -- The whole run has been computed; it is taken apart into its two steps.
  obtain ⟨s', hresult⟩ := Work.exists_eq_ok hresult
  obtain ⟨c, s₁, hconfig, hresult⟩ := Work.runIn_bind_eq_ok hresult
  obtain ⟨r, s₂, hrun, hresult⟩ := Work.runIn_bind_eq_ok hresult
  obtain ⟨hstrict, hexceeded⟩ := Prod.mk.inj (Except.ok.inj (congrArg Prod.fst hresult))
  obtain ⟨f, s₃, hidle, hreported⟩ : ∃ f s₃,
      (c.createReport idleTools.runner).runIn s₁ = (.error f, s₃) ∧ f.isReported = true := by
    rw [Work.runIn_bind, hconfig] at hfailure
    rcases hrun : (c.createReport idleTools.runner).runIn s₁ with ⟨f | r, s₃⟩
    · simp only [hrun] at hfailure
      exact ⟨f, s₃, rfl, hfailure⟩
    · simp only [hrun] at hfailure
      cases hfailure
  have hone : (checked (writing oneViolation) defaultSettingsFile [] gateSample).1 = .ok 1 := by
    obtain ⟨q, -, hjudged⟩ := checked_of_ok hconfig hrun
    exact hjudged.eq_one_iff.2 ⟨hstrict, Config.isExceededBy_iff.1 hexceeded⟩
  obtain ⟨hverdict, -, hmore⟩ := checked_gate (writing oneViolation) hconfig
  obtain ⟨errors, warnings, q, hcounts, -, hjudged⟩ := hverdict r s₂ hrun
  obtain ⟨-, hfails, -⟩ := checked_gate idleTools hconfig
  exact ⟨c, s₁, hconfig, ⟨r, s₂, errors, warnings, q, hrun, hcounts, hjudged⟩,
    ⟨f, s₃, hidle, hreported, congrArg Prod.fst (hfails f s₃ hidle hreported)⟩, hone,
    hmore _ extends_moreViolations hone⟩

end JavaBuild.CommandLine
