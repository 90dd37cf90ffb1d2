import JavaBuild.Checkstyle.Run
import JavaBuild.Proofs.FileTree.Removal
import JavaBuild.Proofs.Work

/-!
# Removing reports

The reports of a configuration are all that is at and below their directory, and the
data file (`Config.Owns`). When they have been removed there is nothing of this left, and
all else is as it was (`clears_of_runIn_clean`).

Reports can be removed where nothing is in the way (`Config.Tidy`) and the system takes
their paths (`Config.Accepted`). This stays so when those of another configuration have
been removed, so those of several are removed one after the other
(`forM_clean_eq_ok`).
-/

namespace JavaBuild.Checkstyle.Config

open Workspace (Clears Keeps)

variable {c d : Config} {configs : List Config} {s s' : Session} {w w' : Workspace}

/-- The locations of the reports of a configuration. -/
def Owns (c : Config) (w : Workspace) (l : Location) : Prop :=
  w.place c.reportDir <+: l ∨ l = w.place c.dataFile

instance (c : Config) (w : Workspace) (l : Location) : Decidable (c.Owns w l) :=
  inferInstanceAs (Decidable (_ ∨ _))

/-! ## One configuration -/

/-- The directory of the reports is removed if it is there, and then the data file. -/
theorem runIn_clean (c : Config) (s : Session) : c.clean.runIn s =
    match s.workspace.resolve c.reportDir with
    | .error e => (.error (.file e), s)
    | .ok reports => match s.workspace.find? reports with
      | .error e => (.error (.file e), s)
      | .ok none => (Work.removeFile c.dataFile).runIn s
      | .ok (some _) => match s.workspace.removeTree reports with
        | .error e => (.error (.file e), s)
        | .ok workspace => (Work.removeFile c.dataFile).runIn { s with workspace } := by
  simp only [clean, reportsHere, Work.runIn_bind, Work.runIn_inspect, reportTo_none,
    Work.pathExists, Workspace.pathExists]
  cases s.workspace.resolve c.reportDir with
  | error e => rfl
  | ok reports =>
    simp only [mapError_ok]
    rcases s.workspace.find? reports with _ | _ | _
    · rfl
    · rfl
    · simp only [Except.map, Option.isSome_some, mapError_ok, if_true, Work.runIn_bind,
        Work.runIn_change]
      cases s.workspace.removeTree reports <;> rfl

/-- Removing reports fails at once, or goes on to the data file. -/
theorem runIn_clean_cases (c : Config) (s : Session) :
    (∃ f, c.clean.runIn s = (.error f, s)) ∨
      ∃ reports workspace, s.workspace.resolve c.reportDir = .ok reports ∧
        ((s.workspace.find? reports = .ok none ∧ workspace = s.workspace) ∨
          s.workspace.removeTree reports = .ok workspace) ∧
        c.clean.runIn s = (Work.removeFile c.dataFile).runIn { s with workspace } := by
  rw [runIn_clean]
  cases hq : s.workspace.resolve c.reportDir with
  | error e => exact .inl ⟨_, rfl⟩
  | ok reports =>
    rcases hfind : s.workspace.find? reports with e | _ | node
    · simp only [hfind]
      exact .inl ⟨_, rfl⟩
    · simp only [hfind]
      exact .inr ⟨reports, s.workspace, rfl, .inl ⟨hfind, rfl⟩, rfl⟩
    · simp only [hfind]
      cases hremove : s.workspace.removeTree reports with
      | error e => exact .inl ⟨_, rfl⟩
      | ok workspace => exact .inr ⟨reports, workspace, rfl, .inr hremove, rfl⟩

/-- When reports have been removed, there is nothing of them left, and all else is as it
    was. -/
theorem clears_of_runIn_clean (hdots : ".." ∉ c.dataFile.parts)
    (hroot : s.workspace.place c.reportDir ≠ [])
    (hnul : '\x00' ∉ (⟨.absolute, s.workspace.place c.reportDir⟩ : Path).toString.toList)
    (h : c.clean.runIn s = (.ok (), s')) :
    s' = { s with workspace := s'.workspace } ∧
      Clears (c.Owns s.workspace) s.workspace s'.workspace := by
  rcases runIn_clean_cases c s with ⟨f, hf⟩ | ⟨reports, w, hq, hw, hrun⟩
  · rw [h] at hf
    cases hf
  · obtain ⟨hreports, hplace⟩ := Workspace.place_of_resolve hq
    have hdir : Clears (s.workspace.place c.reportDir <+: ·) s.workspace w := by
      rw [← hplace] at hroot ⊢
      rcases hw with ⟨hfind, rfl⟩ | hremove
      · -- Where the directory is not, there is nothing below it either.
        have hnone := Workspace.get?_of_find?_eq_none hreports
          (by rwa [(Workspace.resolve_eq_ok_iff.1 hq).2.2]) hfind
        exact Workspace.clears_of_none fun l hl => FileTree.get?_below hnone hl
      · exact Workspace.clears_removeTree hremove hroot
    rw [h] at hrun
    obtain ⟨hframe, hfile⟩ := Workspace.clears_of_runIn_removeFile hdots hrun.symm
    rw [hdir.place] at hfile
    refine ⟨hframe, hdir.trans hfile⟩

/-- Whether it succeeds or not, removing reports changes nothing else. -/
theorem keeps_runIn_clean (c : Config) (s : Session) :
    (c.clean.runIn s).2 = { s with workspace := (c.clean.runIn s).2.workspace } ∧
      Keeps (c.Owns s.workspace) s.workspace (c.clean.runIn s).2.workspace := by
  rcases runIn_clean_cases c s with ⟨f, hf⟩ | ⟨reports, w, hq, hw, hrun⟩
  · rw [hf]
    exact ⟨rfl, .refl _ _⟩
  · have hplace := (Workspace.place_of_resolve hq).2
    have hdir : Keeps (s.workspace.place c.reportDir <+: ·) s.workspace w := by
      rcases hw with ⟨-, rfl⟩ | hremove
      · exact .refl _ _
      · exact hplace ▸ Workspace.keeps_removeTree hremove
    obtain ⟨hframe, hfile⟩ :=
      Workspace.keeps_runIn_removeFile c.dataFile { s with workspace := w }
    rw [hrun]
    refine ⟨hframe, hdir.trans ?_⟩
    rwa [← hdir.place]

/-! ## Several configurations -/

/-- Nothing is in the way of the reports, and the working directory is not among them. -/
@[mk_iff]
structure Tidy (c : Config) (w : Workspace) : Prop where
  away : ¬w.place c.reportDir <+: w.here
  reportDots : ".." ∉ c.reportDir.parts
  dataDots : ".." ∉ c.dataFile.parts
  reportOpen : w.IsOpen (w.place c.reportDir)
  dataOpen : w.IsOpen (w.place c.dataFile)
  report : (w.files.get? (w.place c.reportDir)).all FileNode.isDirectory
  data : (w.files.get? (w.place c.dataFile)).all fun node => !node.isDirectory

instance (c : Config) (w : Workspace) : Decidable (c.Tidy w) :=
  decidable_of_iff' _ (c.tidy_iff w)

/-- The system takes the paths of the reports. -/
@[mk_iff]
structure Accepted (c : Config) (w : Workspace) : Prop where
  reportNul : '\x00' ∉ c.reportDir.toString.toList
  report : (⟨.absolute, w.place c.reportDir⟩ : Path).Fits
  data : c.dataFile.Fits

instance (c : Config) (w : Workspace) : Decidable (c.Accepted w) :=
  decidable_of_iff' _ (c.accepted_iff w)

/-- The working directory is there, if the paths of the reports start at it. -/
@[mk_iff]
structure Anchored (c : Config) (w : Workspace) : Prop where
  report : w.Starts c.reportDir
  data : w.Starts c.dataFile

instance (c : Config) (w : Workspace) : Decidable (c.Anchored w) :=
  decidable_of_iff' _ (c.anchored_iff w)

/-- The reports can be removed. -/
@[mk_iff]
structure Removable (c : Config) (w : Workspace) : Prop where
  tidy : c.Tidy w
  accepted : c.Accepted w
  anchored : c.Anchored w

instance (c : Config) (w : Workspace) : Decidable (c.Removable w) :=
  decidable_of_iff' _ (c.removable_iff w)

theorem Tidy.place_ne_nil (h : c.Tidy w) : w.place c.reportDir ≠ [] := fun hnil =>
  h.away (hnil ▸ List.nil_prefix)

theorem Tidy.get?_ne_directory (h : c.Tidy w) :
    w.files.get? (w.place c.dataFile) ≠ some .directory := by
  intro hdir
  have hfile := h.data
  rw [hdir] at hfile
  cases hfile

/-- The directory of the reports is found, or there is nothing in its place. -/
theorem Removable.inspect_eq (h : c.Removable w) :
    w.resolve c.reportDir = .ok ⟨.absolute, w.place c.reportDir⟩ ∧
      (w.inspect ⟨.absolute, w.place c.reportDir⟩ = .ok (w.place c.reportDir, .directory) ∨
        w.inspect ⟨.absolute, w.place c.reportDir⟩ =
          .error (.on .noEntry ⟨.absolute, w.place c.reportDir⟩)) := by
  have hq := Workspace.resolve_eq_ok_iff.2 ⟨h.accepted.reportNul, h.anchored.report, rfl⟩
  obtain ⟨hdots, hplace⟩ := Workspace.place_of_resolve hq
  have hs : w.Starts ⟨.absolute, w.place c.reportDir⟩ := w.files.get?_nil
  have hinspect := Workspace.inspect_eq_of_isOpen hs h.accepted.report hdots (by
    rw [hplace]
    exact h.tidy.reportOpen)
  have hreport := h.tidy.report
  refine ⟨hq, ?_⟩
  rw [hinspect, hplace]
  generalize w.files.get? (w.place c.reportDir) = found at hreport ⊢
  obtain _ | _ | bytes := found
  · exact .inr rfl
  · exact .inl rfl
  · cases hreport

theorem Removable.runIn_clean_fst (h : c.Removable s.workspace) :
    (c.clean.runIn s).1 = .ok () := by
  obtain ⟨hq, hinspect⟩ := h.inspect_eq
  have hplace := (Workspace.place_of_resolve hq).2
  rw [runIn_clean, hq]
  rcases hinspect with hinspect | hinspect
  · have hremove := Workspace.removeTree_eq_ok_iff.2 ⟨_, hinspect, rfl⟩
    have hdir := Workspace.clears_removeTree hremove fun hnil =>
      h.tidy.place_ne_nil (hplace.symm.trans hnil)
    rw [hplace] at hdir
    simp only [Workspace.find?_of_inspect hinspect, hremove]
    refine Workspace.runIn_removeFile_eq_ok (hdir.starts (fun _ => h.tidy.away) h.anchored.data)
      h.accepted.data h.tidy.dataDots ?_ fun hget => ?_
    · exact hdir.isOpen (hdir.place c.dataFile ▸ h.tidy.dataOpen)
    · exact h.tidy.get?_ne_directory (hdir.place c.dataFile ▸ hdir.get?_of_eq_some hget)
  · have hfind : s.workspace.find? ⟨.absolute, s.workspace.place c.reportDir⟩ = .ok none := by
      rw [Workspace.find?, hinspect]
      rfl
    simp only [hfind]
    exact Workspace.runIn_removeFile_eq_ok h.anchored.data h.accepted.data h.tidy.dataDots
      h.tidy.dataOpen h.tidy.get?_ne_directory

/-- The reports of a configuration can be removed. -/
theorem runIn_clean_eq_ok (h : c.Removable s.workspace) : ∃ workspace,
    c.clean.runIn s = (.ok (), { s with workspace }) ∧
      Clears (c.Owns s.workspace) s.workspace workspace := by
  have hrun : c.clean.runIn s = (.ok (), (c.clean.runIn s).2) :=
    Prod.ext h.runIn_clean_fst rfl
  obtain ⟨hframe, hclears⟩ := clears_of_runIn_clean h.tidy.dataDots h.tidy.place_ne_nil
    h.accepted.report.text.1 hrun
  exact ⟨_, hrun.trans (congrArg _ hframe), hclears⟩

theorem Tidy.not_owns_here (h : c.Tidy w) (hhere : w.files.get? w.here = some .directory) :
    ¬c.Owns w w.here := by
  rintro (habove | hdata)
  · exact h.away habove
  · exact h.get?_ne_directory (hdata ▸ hhere)

/-- Reports can still be removed after those of another configuration. -/
theorem Removable.of_clears (hd : d.Removable w) (hc : c.Tidy w)
    (h : Clears (c.Owns w) w w') : d.Removable w' where
  tidy :=
    { away := by
        rw [h.place, h.here]
        exact hd.tidy.away
      reportDots := hd.tidy.reportDots
      dataDots := hd.tidy.dataDots
      reportOpen := h.place d.reportDir ▸ h.isOpen hd.tidy.reportOpen
      dataOpen := h.place d.dataFile ▸ h.isOpen hd.tidy.dataOpen
      report := by
        rw [h.place]
        exact h.all_of_all hd.tidy.report
      data := by
        rw [h.place]
        exact h.all_of_all hd.tidy.data }
  accepted := ⟨hd.accepted.reportNul, h.place d.reportDir ▸ hd.accepted.report, hd.accepted.data⟩
  anchored := ⟨h.starts hc.not_owns_here hd.anchored.report,
    h.starts hc.not_owns_here hd.anchored.data⟩

/-- What configurations own does not depend on the files. -/
theorem owns_congr (h : w'.here = w.here) (c : Config) (l : Location) :
    c.Owns w' l ↔ c.Owns w l := by
  rw [Owns, Owns, Workspace.place_congr h, Workspace.place_congr h]

/-- The reports of several configurations can be removed one after the other. -/
theorem forM_clean_eq_ok (h : ∀ c ∈ configs, c.Removable s.workspace) : ∃ workspace,
    (configs.forM clean).runIn s = (.ok (), { s with workspace }) ∧
      Clears (fun l => ∃ c ∈ configs, c.Owns s.workspace l) s.workspace workspace := by
  -- After one step all the others can still be removed, and own the same.
  induction configs generalizing s with
  | nil =>
    refine ⟨s.workspace, rfl, Workspace.clears_of_none fun l hl => ?_⟩
    obtain ⟨c, hc, -⟩ := hl
    cases hc
  | cons c configs ih =>
    obtain ⟨hc, hconfigs⟩ := List.forall_mem_cons.1 h
    obtain ⟨w₁, hrun, hfirst⟩ := runIn_clean_eq_ok hc
    obtain ⟨w₂, hrest, hothers⟩ := ih (s := { s with workspace := w₁ })
      fun d hd => (hconfigs d hd).of_clears hc.tidy hfirst
    refine ⟨w₂, ?_, (hfirst.trans hothers).congr fun l => ?_⟩
    · rw [Work.runIn_forM_cons, hrun]
      exact hrest
    · simp only [List.mem_cons, exists_eq_or_imp, owns_congr hfirst.here]

/-- Whether it succeeds or not, removing reports of several configurations changes
    nothing else. -/
theorem keeps_forM_clean (configs : List Config) (s : Session) :
    ((configs.forM clean).runIn s).2 =
        { s with workspace := ((configs.forM clean).runIn s).2.workspace } ∧
      Keeps (fun l => ∃ c ∈ configs, c.Owns s.workspace l) s.workspace
        ((configs.forM clean).runIn s).2.workspace := by
  induction configs generalizing s with
  | nil => exact ⟨rfl, .refl _ _⟩
  | cons c configs ih =>
    obtain ⟨hframe, hfirst⟩ := keeps_runIn_clean c s
    rw [Work.runIn_forM_cons]
    generalize c.clean.runIn s = run at *
    obtain ⟨_ | _, s₁⟩ := run
    · exact ⟨hframe, hfirst.mono fun l hl => ⟨c, List.mem_cons_self, hl⟩⟩
    · obtain ⟨hframe', hothers⟩ := ih s₁
      simp only at hframe hfirst ⊢
      refine ⟨hframe'.trans ?_, (hfirst.trans hothers).mono fun l hl => ?_⟩
      · rw [hframe]
      · simpa only [List.mem_cons, exists_eq_or_imp, owns_congr hfirst.here] using hl

end JavaBuild.Checkstyle.Config
