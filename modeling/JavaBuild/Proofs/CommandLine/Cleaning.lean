import JavaBuild.CommandLine.Run
import JavaBuild.Proofs.Checkstyle.Clean
import JavaBuild.Stylesheet.Basic

/-!
# Cleaning projects

All settings files are read before any report is removed, and reading them changes nothing
(`runIn_perform_clean`). So all stays as it is if one of them gives no configuration; and
else the reports of all configurations are removed, in whichever order and however often
projects are named (`cleaned_all_or_nothing`).
-/

namespace JavaBuild

open Checkstyle (Config Tools)

/-- The settings in a file, which are none if it is not there. -/
def settingsAt (w : Workspace) (file : Path) : Except Failure Toml.Fields := do
  if ← (w.pathExists file).mapError .file then
    settingsOf file (← (w.readFile file).mapError .file)
  else return []

theorem runIn_loadSettings (file : Path) (s : Session) :
    (loadSettings file).runIn s = (settingsAt s.workspace file, s) := by
  simp only [loadSettings, settingsAt, Work.pathExists, Work.readFile, Work.runIn_bind,
    Work.runIn_inspect]
  rcases s.workspace.pathExists file with _ | _ | _
  · rfl
  · rfl
  · simp only [mapError_ok, if_true, Work.runIn_bind, Work.runIn_inspect, Work.runIn_ofExcept]
    cases s.workspace.readFile file with
    | error e => rfl
    | ok bytes =>
      simp only [mapError_ok, pure, bind, Except.bind]
      cases settingsOf file bytes <;> rfl

namespace CommandLine

open Workspace (Clears Keeps)

variable {s : Session} {w : Workspace} {settings : Path} {projects : List Path}
  {origin : Path × Path}

/-! ## Reading the settings -/

/-- The settings file of a project, with the directory that paths in it are seen from. -/
def projectOrigin (project : Path) : Path × Path := (project.join defaultSettingsFile, project)

/-- The settings files of a run. -/
def origins (settings : Path) (projects : List Path) : List (Path × Path) :=
  (settings, .here) :: projects.map projectOrigin

/-- The configuration that a settings file gives. -/
def configAt (w : Workspace) (origin : Path × Path) : Except Failure Config := do
  Config.ofSettings (settingsSection (← settingsAt w origin.1) checkstyleSection) origin.2

theorem runIn_configIn (origin : Path × Path) (s : Session) :
    (do configIn (← loadSettings origin.1) origin.2 : Work Config).runIn s =
      (configAt s.workspace origin, s) := by
  rw [Work.runIn_bind, runIn_loadSettings, configAt]
  cases settingsAt s.workspace origin.1 with
  | error f => rfl
  | ok fields =>
    simp only [configIn, Work.runIn_ofExcept, bind, Except.bind]
    cases Config.ofSettings (settingsSection fields checkstyleSection) origin.2 <;> rfl

theorem runIn_projectConfigs (projects : List Path) (s : Session) :
    (projectConfigs projects).runIn s =
      ((projects.map projectOrigin).mapM (configAt s.workspace), s) := by
  rw [List.mapM_map]
  exact Work.runIn_mapM (fun project => runIn_configIn (projectOrigin project) s) projects

/-- All settings are read before anything is removed. -/
theorem runIn_perform_clean (tools : Tools) (settings : Path) (projects : List Path)
    (s : Session) :
    (Invocation.perform tools ⟨settings, .reports .clean projects⟩).runIn s =
      match (origins settings projects).mapM (configAt s.workspace) with
      | .error f => (.error f, s)
      | .ok configs => (configs.forM Config.clean).runIn s := by
  have h : Invocation.perform tools ⟨settings, .reports .clean projects⟩ =
      (do configIn (← loadSettings settings) .here : Work Config) >>= fun base =>
        projectConfigs projects >>= fun others => (base :: others).forM Config.clean := by
    simp only [Invocation.perform, Request.run, report, cleanAll, bind_assoc]
  -- Both sides fail at the first settings file that gives no configuration.
  rw [h, origins, List.mapM_cons, Work.runIn_bind, runIn_configIn (settings, .here)]
  cases configAt s.workspace (settings, .here) with
  | error f => rfl
  | ok base =>
    simp only
    rw [Work.runIn_bind, runIn_projectConfigs]
    cases (projects.map projectOrigin).mapM (configAt s.workspace) <;> rfl

/-! ## Removing reports -/

/-- What removing the reports of the current directory and of projects comes to. -/
def cleaned (tools : Tools) (settings : Path) (projects : List Path) (s : Session) :
    Except Failure Nat × Session :=
  (Invocation.run tools ⟨settings, .reports .clean projects⟩).runIn s

/-- The locations of the reports that settings files tell of. -/
def IsReport (w : Workspace) (origins : List (Path × Path)) (l : Location) : Prop :=
  ∃ origin ∈ origins, ∃ c, configAt w origin = .ok c ∧ c.Owns w l

theorem runIn_exitStatus (t : Work Unit) (s : Session) : (exitStatus t).runIn s =
    match t.runIn s with
    | (.ok _, s') => (.ok 0, s')
    | (.error f, s') =>
      if f.isReported then (.ok 1, { s' with err := s'.err ++ [s!"ERROR: {f.message}"] })
      else (.error f, s') := by
  rw [exitStatus, Work.runIn_tryCatch, Work.runIn_bind]
  rcases t.runIn s with ⟨f | _, s'⟩
  · simp only
    split <;> rfl
  · rfl

/-- The exit status is told without touching files. -/
theorem workspace_exitStatus (t : Work Unit) (s : Session) :
    ((exitStatus t).runIn s).2.workspace = (t.runIn s).2.workspace := by
  rw [runIn_exitStatus]
  rcases t.runIn s with ⟨f | _, s'⟩
  · simp only
    split <;> rfl
  · rfl

/-- The exit status is told without printing lines to the output. -/
theorem out_exitStatus (t : Work Unit) (s : Session) :
    ((exitStatus t).runIn s).2.out = (t.runIn s).2.out := by
  rw [runIn_exitStatus]
  rcases t.runIn s with ⟨f | _, s'⟩
  · simp only
    split <;> rfl
  · rfl

/-- Work that fails only in ways the user is told of has an exit status, which is zero if it
    does not fail. -/
theorem exists_exitStatus {t : Work Unit}
    (h : ∀ f, (t.runIn s).1 = .error f → f.isReported = true) :
    ∃ status, ((exitStatus t).runIn s).1 = .ok status ∧
      (status = 0 ↔ (t.runIn s).1 = .ok ()) := by
  rw [runIn_exitStatus]
  generalize t.runIn s = run at h ⊢
  obtain ⟨f | ⟨⟩, s'⟩ := run
  · simp only [h f rfl, if_true]
    exact ⟨1, rfl, by simp⟩
  · exact ⟨0, rfl, by simp⟩

/-- Work that fails has another exit status than zero, if any. -/
theorem exitStatus_ne_zero {t : Work Unit} {f : Failure} {s' : Session}
    (h : t.runIn s = (.error f, s')) : ((exitStatus t).runIn s).1 ≠ .ok 0 := by
  rw [runIn_exitStatus, h]
  simp only
  split <;> simp

instance (w : Workspace) (origins : List (Path × Path)) (l : Location) :
    Decidable (IsReport w origins l) :=
  inferInstanceAs (Decidable (∃ origin ∈ origins, ∃ c, configAt w origin = .ok c ∧ c.Owns w l))

theorem isReport_iff {configs : List Config}
    (h : (origins settings projects).mapM (configAt w) = .ok configs) (l : Location) :
    IsReport w (origins settings projects) l ↔ ∃ c ∈ configs, c.Owns w l := by
  simp only [IsReport, (mapM_eq_ok h).2]
  constructor
  · rintro ⟨origin, horigin, c, hc, hl⟩
    exact ⟨c, ⟨origin, horigin, hc⟩, hl⟩
  · rintro ⟨c, ⟨origin, horigin, hc⟩, hl⟩
    exact ⟨origin, horigin, c, hc, hl⟩

/-- Nothing changes if a settings file gives no configuration. -/
theorem cleaned_of_error {f : Failure} (tools : Tools)
    (horigin : origin ∈ origins settings projects) (hf : configAt s.workspace origin = .error f) :
    (cleaned tools settings projects s).1 ≠ .ok 0 ∧
      (cleaned tools settings projects s).2.workspace = s.workspace := by
  have hperform := runIn_perform_clean tools settings projects s
  cases hconfigs : (origins settings projects).mapM (configAt s.workspace) with
  | error g =>
    rw [hconfigs] at hperform
    refine ⟨exitStatus_ne_zero hperform, ?_⟩
    rw [cleaned, Invocation.run, workspace_exitStatus, hperform]
  | ok configs =>
    obtain ⟨c, hc⟩ := (mapM_eq_ok hconfigs).1 origin horigin
    rw [hf] at hc
    cases hc

/-- Nothing but reports is removed. -/
theorem keeps_cleaned (tools : Tools) (settings : Path) (projects : List Path)
    (s : Session) :
    Keeps (IsReport s.workspace (origins settings projects)) s.workspace
      (cleaned tools settings projects s).2.workspace := by
  rw [cleaned, Invocation.run, workspace_exitStatus, runIn_perform_clean]
  cases hconfigs : (origins settings projects).mapM (configAt s.workspace) with
  | error f => exact .refl _ _
  | ok configs =>
    exact (Config.keeps_forM_clean configs s).2.mono fun l => (isReport_iff hconfigs l).2

/-- All reports are removed, if they can be. -/
theorem cleaned_of_removable (tools : Tools) (settings : Path) (projects : List Path)
    (h : ∀ origin ∈ origins settings projects, ∃ c, configAt s.workspace origin = .ok c ∧
      c.Removable s.workspace) :
    ∃ w, cleaned tools settings projects s = (.ok 0, { s with workspace := w }) ∧
      Clears (IsReport s.workspace (origins settings projects)) s.workspace w := by
  obtain ⟨configs, hconfigs⟩ := exists_mapM_eq_ok fun origin horigin =>
    (h origin horigin).imp fun _ hc => hc.1
  have hremovable : ∀ c ∈ configs, c.Removable s.workspace := by
    intro c hc
    obtain ⟨origin, horigin, hconfig⟩ := ((mapM_eq_ok hconfigs).2 c).1 hc
    obtain ⟨c', hc', hremovable⟩ := h origin horigin
    rw [hconfig] at hc'
    cases hc'
    exact hremovable
  obtain ⟨w, hrun, hclears⟩ := Config.forM_clean_eq_ok hremovable
  refine ⟨w, ?_, hclears.congr fun l => (isReport_iff hconfigs l).symm⟩
  rw [cleaned, Invocation.run, runIn_exitStatus, runIn_perform_clean, hconfigs]
  simp only [hrun]

theorem mem_origins_congr {projects' : List Path} (h : ∀ p, p ∈ projects' ↔ p ∈ projects)
    (origin : Path × Path) :
    origin ∈ origins settings projects' ↔ origin ∈ origins settings projects := by
  simp only [origins, List.mem_cons, List.mem_map, h]

/-- Removing the reports of projects is all or nothing: if a settings file gives no
    configuration, all stays as it is, and nothing but reports is removed in any case. If
    they can be removed, all of them are, and it does not matter in which order or how often
    projects are named. -/
theorem cleaned_all_or_nothing (tools : Tools) (settings : Path) (projects : List Path)
    (s : Session) :
    (∀ origin ∈ origins settings projects, ∀ f, configAt s.workspace origin = .error f →
      (cleaned tools settings projects s).1 ≠ .ok 0 ∧
        (cleaned tools settings projects s).2.workspace = s.workspace) ∧
    Keeps (IsReport s.workspace (origins settings projects)) s.workspace
      (cleaned tools settings projects s).2.workspace ∧
    ((∀ origin ∈ origins settings projects, ∃ c, configAt s.workspace origin = .ok c ∧
        c.Removable s.workspace) →
      (∃ w, cleaned tools settings projects s = (.ok 0, { s with workspace := w }) ∧
        Clears (IsReport s.workspace (origins settings projects)) s.workspace w) ∧
      ∀ projects', (∀ p, p ∈ projects' ↔ p ∈ projects) →
        cleaned tools settings projects' s = cleaned tools settings projects s) := by
  refine ⟨fun origin horigin f => cleaned_of_error tools horigin,
    keeps_cleaned tools settings projects s, fun h => ?_⟩
  obtain ⟨w, hrun, hclears⟩ := cleaned_of_removable tools settings projects h
  refine ⟨⟨w, hrun, hclears⟩, fun projects' hprojects => ?_⟩
  obtain ⟨w', hrun', hclears'⟩ := cleaned_of_removable tools settings projects'
    fun origin horigin => h origin ((mem_origins_congr hprojects origin).1 horigin)
  have hreports (l : Location) : IsReport s.workspace (origins settings projects') l ↔
      IsReport s.workspace (origins settings projects) l := by
    simp only [IsReport, mem_origins_congr hprojects]
  have hw : w' = w := (hclears'.congr hreports).unique hclears
  rw [hrun', hrun, hw]

/-! ## Samples -/

/-- Tools by which a run of Checkstyle writes nothing. -/
def idleTools : Tools where
  runner _ := .ended none 0 ""
  engine := Stylesheet.engine

/-- A tree of these nodes. -/
def treeOf (nodes : List (Location × FileNode)) : FileTree :=
  nodes.foldl (fun t (l, node) => t.put l node) .empty

/-- A project `p` with reports among those of the working directory, and a project `q`
    without usable settings. -/
def projectSample : Session where
  workspace :=
    { here := ["w"], home := []
      files := treeOf
        [(["w"], .directory),
          (["w", "build.toml"], .file "[checkstyle]\nreport-dir = \"p/r\"\n".toUTF8),
          (["w", "p"], .directory),
          (["w", "p", "build.toml"],
            .file "[checkstyle]\nreport-dir = \"r/s\"\ndata-file = \"r.xml\"\n".toUTF8),
          (["w", "p", "r"], .directory),
          (["w", "p", "r", "s"], .directory),
          (["w", "p", "r", "s", "a.html"], .file .empty),
          (["w", "p", "r.xml"], .file .empty),
          (["w", "q"], .directory),
          (["w", "q", "build.toml"], .file "=".toUTF8)] }

theorem cleaned_projectSample :
    let w := projectSample.workspace
    ((∃ f, configAt w (projectOrigin (.ofString "q")) = .error f) ∧
      (cleaned idleTools defaultSettingsFile [.ofString "p", .ofString "q"]
        projectSample).2.workspace = w) ∧
    (∀ origin ∈ origins defaultSettingsFile [.ofString "p"], ∃ c, configAt w origin = .ok c ∧
      c.Removable w) ∧
    (∃ w', cleaned idleTools defaultSettingsFile [.ofString "p"] projectSample =
        (.ok 0, { projectSample with workspace := w' }) ∧
      w'.files.get? ["w", "p", "r", "s", "a.html"] = none ∧
      w'.files.get? ["w", "p", "r.xml"] = none ∧
      w'.files.get? ["w", "p", "build.toml"] = w.files.get? ["w", "p", "build.toml"]) ∧
    cleaned idleTools defaultSettingsFile [.ofString "p", .ofString "p"] projectSample =
      cleaned idleTools defaultSettingsFile [.ofString "p"] projectSample := by
  intro w
  obtain ⟨f, hf⟩ : ∃ f, configAt w (projectOrigin (.ofString "q")) = .error f := by
    have hfails : (configAt w (projectOrigin (.ofString "q"))).isOk = false := by decide +kernel
    cases hconfig : configAt w (projectOrigin (.ofString "q")) with
    | error f => exact ⟨f, rfl⟩
    | ok c =>
      rw [hconfig] at hfails
      cases hfails
  have hbroken := (cleaned_all_or_nothing idleTools defaultSettingsFile
    [.ofString "p", .ofString "q"] projectSample).1 _ (by simp [origins]) f hf
  have hremovable : ∀ origin ∈ origins defaultSettingsFile [.ofString "p"],
      ∃ c, configAt w origin = .ok c ∧ c.Removable w := by decide +kernel
  obtain ⟨⟨w', hrun, hclears⟩, hsame⟩ := (cleaned_all_or_nothing idleTools defaultSettingsFile
    [.ofString "p"] projectSample).2.2 hremovable
  refine ⟨⟨⟨f, hf⟩, hbroken.2⟩, hremovable, ⟨w', hrun, ?_, ?_, ?_⟩, hsame _ (by simp)⟩
  · exact hclears.gone _ (by decide +kernel)
  · exact hclears.gone _ (by decide +kernel)
  · exact hclears.kept _ (by decide +kernel)

/-- Settings with a path that the system does not take. -/
def nulSample : Session where
  workspace := .holding [("build.toml", "[checkstyle]\nreport-dir = \"a\\u0000b\"\n")]

/-- A working directory that has been removed. -/
def goneSample : Session where
  workspace := { files := .empty, here := ["w"], home := [] }

/-- Although nothing is in the way of them, reports are not removed if the system does not
    take their paths, or the working directory is gone. -/
theorem cleaned_refused :
    ((∀ origin ∈ origins defaultSettingsFile [], ∃ c,
        configAt nulSample.workspace origin = .ok c ∧ c.Tidy nulSample.workspace) ∧
      (cleaned idleTools defaultSettingsFile [] nulSample).1 ≠ .ok 0) ∧
    ((∀ origin ∈ origins defaultSettingsFile [], ∃ c,
        configAt goneSample.workspace origin = .ok c ∧ c.Tidy goneSample.workspace) ∧
      (cleaned idleTools defaultSettingsFile [] goneSample).1 ≠ .ok 0) := by
  have hnul : (cleaned idleTools defaultSettingsFile [] nulSample).1.toOption ≠ some 0 := by
    decide +kernel
  have hgone : (cleaned idleTools defaultSettingsFile [] goneSample).1.toOption ≠ some 0 := by
    decide +kernel
  exact ⟨⟨by decide +kernel, fun h => hnul (congrArg Except.toOption h)⟩,
    ⟨by decide +kernel, fun h => hgone (congrArg Except.toOption h)⟩⟩

end CommandLine

end JavaBuild
