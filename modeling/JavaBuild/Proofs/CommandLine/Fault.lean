import JavaBuild.Proofs.Checkstyle.Aggregate
import JavaBuild.Proofs.Checkstyle.Fault
import JavaBuild.Proofs.CommandLine.Gate
import JavaBuild.Proofs.CommandLine.Listing

/-!
# Faults

The program ends with the exit status zero or one, or there is a fault of which the user is
not told (`ends_or_fault`). What these faults are is listed in `Fault`: bytes that are no text,
encodings and numbers that cannot be read, values of a wrong kind, paths with a NUL, and
failures of the tools that are none of the system. A fault in the settings file ends the
program whatever it is asked to do.

The arguments of the program are Unicode texts here, without the lone surrogates for which
`Text.Escapes` is there, and all that it prints is taken.
-/

namespace JavaBuild

variable {w : Workspace} {s : Session} {f : Failure} {bytes : ByteArray} {file : Path}

/-! ## Settings files -/

/-- The bytes of a settings file are no text, or hold a number of too many digits. -/
inductive SettingsFault (bytes : ByteArray) : Failure → Prop
  | encoding {e : Text.Utf8Error} (h : Text.decodeUtf8 bytes = .error e) :
    SettingsFault bytes (.encoding e)
  | number {text : String} {digits : Nat} (decoded : Text.decodeUtf8 bytes = .ok text)
    (h : Toml.readSettings (Toml.normalizeNewlines text.toList) =
      .error (.tooManyDigits digits)) : SettingsFault bytes (.number "" (.tooLong digits))

/-- A fault of settings ends their reading, and the user is not told, … -/
theorem SettingsFault.settingsOf_eq (h : SettingsFault bytes f) (file : Path) :
    settingsOf file bytes = .error f ∧ f.isReported = false := by
  rw [settingsOf]
  cases h with
  | encoding h =>
    rw [h]
    exact ⟨rfl, rfl⟩
  | number decoded h =>
    simp only [decoded, h]
    exact ⟨trivial, rfl⟩

/-- … and nothing else does. -/
theorem fault_of_settingsOf (h : settingsOf file bytes = .error f)
    (hreported : f.isReported = false) : SettingsFault bytes f := by
  rw [settingsOf] at h
  cases hdecode : Text.decodeUtf8 bytes with
  | error e =>
    rw [hdecode] at h
    cases h
    exact .encoding hdecode
  | ok text =>
    simp only [hdecode] at h
    split at h
    · cases h
    · cases h
      cases hreported
    · rename_i digits hread
      cases h
      exact .number hdecode hread

/-- The settings of a file that is there are those in its bytes. -/
theorem settingsAt_of_readFile (h : w.readFile file = .ok bytes) :
    settingsAt w file = settingsOf file bytes := by
  obtain ⟨l, hl⟩ := Workspace.inspect_of_readFile h
  have hexists : w.pathExists file = .ok true :=
    Workspace.pathExists_eq_ok_iff.2 ⟨_, Workspace.find?_of_inspect hl, rfl⟩
  simp only [settingsAt, hexists, h, mapError_ok]
  rfl

/-- So settings that are read from a file fail for their bytes only. -/
theorem fault_of_settingsAt (h : settingsAt w file = .error f)
    (hreported : f.isReported = false) :
    ∃ bytes, w.readFile file = .ok bytes ∧ SettingsFault bytes f := by
  rw [settingsAt] at h
  cases hexists : w.pathExists file with
  | error e =>
    rw [hexists] at h
    cases h
    cases e with
    | os e => cases hreported
    | nulInPath => exact absurd hexists Workspace.pathExists_ne_nulInPath
  | ok found =>
    rw [hexists] at h
    cases found with
    | false => cases h
    | true =>
      -- A path that has been found holds no NUL, so reading it fails as an operation does.
      cases hread : w.readFile file with
      | error e =>
        rw [hread] at h
        cases h
        cases e with
        | os e => cases hreported
        | nulInPath => exact absurd hread (Workspace.readFile_ne_nulInPath hexists)
      | ok bytes =>
        rw [hread] at h
        exact ⟨bytes, rfl, fault_of_settingsOf h hreported⟩

namespace CommandLine

open Checkstyle (Config Tools SettingFault)
open Work (FaultsBy)

variable {tools : Tools} {fields : Toml.Fields} {settings : Path} {projects : List Path}
  {origin : Path × Path}

/-! ## Faults of the input -/

/-- The settings files of an invocation. -/
def Invocation.settingsFiles (i : Invocation) : List Path :=
  match i.request with
  | .reports _ projects => (origins i.settings projects).map Prod.fst
  | _ => [i.settings]

/-- The repository that is named, or else that of the settings. -/
def repositoryAt (w : Workspace) (settings : Path) : Option Path → Except Failure Path
  | some p => .ok p
  | none => do repositoryIn (← settingsAt w settings) w

/-- The repository in the settings cannot be used. -/
inductive RepositoryFault (w : Workspace) (settings : Toml.Fields) : Failure → Prop
  /-- It is no text. -/
  | kind {v : Value} (found : Value.field? settings "repository" = some v) (h : ¬v.IsText) :
    RepositoryFault w settings .wrongKind
  /-- There is no user of its first name. -/
  | home {text : String} (found : Value.field? settings "repository" = some (.text text))
    (h : w.expandHome? (.ofString text) = none) : RepositoryFault w settings .noHome
  | nul {text : String} (found : Value.field? settings "repository" = some (.text text))
    (h : w.HoldsNul (.ofString text)) : RepositoryFault w settings (.file .nulInPath)

/-- The input of an invocation has a fault by which the program may end without an exit
    status. -/
inductive Fault (tools : Tools) (w : Workspace) : Invocation → Failure → Prop
  /-- In the bytes of a settings file. -/
  | settings {i : Invocation} {file : Path} {bytes : ByteArray} {f : Failure}
    (mem : file ∈ i.settingsFiles) (read : w.readFile file = .ok bytes)
    (h : SettingsFault bytes f) : Fault tools w i f
  /-- In a value for Checkstyle. -/
  | setting {file : Path} {task : ReportTask} {projects : List Path} {origin : Path × Path}
    {fields : Toml.Fields} {f : Failure} (mem : origin ∈ origins file projects)
    (read : settingsAt w origin.1 = .ok fields)
    (h : SettingFault (settingsSection fields checkstyleSection) f) :
    Fault tools w ⟨file, .reports task projects⟩ f
  /-- In a configuration, or in a report that is written by it. -/
  | run {file : Path} {task : ReportTask} {projects : List Path} {origin : Path × Path}
    {c : Config} {f : Failure} (mem : origin ∈ origins file projects)
    (read : configAt w origin = .ok c) (h : c.RunFault tools w f) :
    Fault tools w ⟨file, .reports task projects⟩ f
  /-- In a project object model. -/
  | encoding {settings file : Path} {selection : Pom.Selection} {showing : Showing}
    {bytes : ByteArray} {f : Failure} (suffix : file.suffix = projectSuffix)
    (read : w.readFile file = .ok bytes) (h : Xml.EncodingFault bytes f) :
    Fault tools w ⟨settings, showing.request file selection⟩ f
  | file {settings file : Path} {selection : Pom.Selection} {showing : Showing}
    (h : w.HoldsNul file) :
    Fault tools w ⟨settings, showing.request file selection⟩ (.file .nulInPath)
  | repository {file : Path} {specs : List String} {fields : Toml.Fields} {f : Failure}
    (read : settingsAt w file = .ok fields)
    (h : RepositoryFault w (settingsSection fields "dependencies") f) :
    Fault tools w ⟨file, .poms specs none⟩ f
  /-- In a place where a project object model is to be. -/
  | pom {file : Path} {specs : List String} {repository : Option Path} {root : Path}
    {spec : String} {a : Artifact} (root_eq : repositoryAt w file repository = .ok root)
    (mem : spec ∈ specs) (told : Artifact.ofSpec spec = .ok a)
    (h : w.HoldsNul (Pom.pomPath root a)) :
    Fault tools w ⟨file, .poms specs repository⟩ (.file .nulInPath)

/-! ## Reading files of dependencies -/

theorem faultsBy_forM_print {Fault : Failure → Prop} (lines : List String) (s : Session) :
    FaultsBy Fault (lines.forM Work.print) s :=
  Work.faultsBy_forM fun line _ s' _ => Work.faultsBy_print line s'

/-- The user is told what is wrong with a dependency list. -/
theorem entriesOfList_eq_error (h : entriesOfList file bytes = .error f) :
    f.isReported = true := by
  rw [entriesOfList] at h
  split at h
  · cases h
    rfl
  · obtain ⟨⟨line, e⟩, -, rfl⟩ := mapError_eq_error_iff.1 h
    rfl

/-- A project object model faults by its path or by its encoding, … -/
theorem faultsBy_loadProject {Fault : Failure → Prop}
    (hnul : s.workspace.HoldsNul file → Fault (.file .nulInPath))
    (hencoding : ∀ bytes f, s.workspace.readFile file = .ok bytes → Xml.EncodingFault bytes f →
      Fault f) : FaultsBy Fault (loadProject file) s := by
  refine .bind (Work.faultsBy_readFile hnul) fun bytes s' hread _ => ?_
  obtain ⟨hread, rfl⟩ := Work.eq_of_runIn_inspect hread
  refine .bind (Work.faultsBy_ofExcept (fun e he hreported => ?_) s') fun root s'' _ _ =>
    Work.faultsBy_pure _ s''
  cases e with
  | malformed fault position => cases hreported
  | encoding name e => exact hencoding bytes _ hread (.intro he)

/-- … but a dependency list by its path only. -/
theorem faultsBy_loadList {Fault : Failure → Prop}
    (hnul : s.workspace.HoldsNul file → Fault (.file .nulInPath)) :
    FaultsBy Fault (loadList file) s := by
  refine .bind (Work.faultsBy_readFile hnul) fun bytes s' _ _ => ?_
  refine Work.faultsBy_ofExcept (fun e he hreported => ?_) s'
  rw [id, entriesOfList_eq_error he] at hreported
  cases hreported

/-- So both kinds of files that can be shown fault as they may, … -/
theorem faultsBy_loadEntries (showing : Showing) (file : Path) (selection : Pom.Selection)
    (s : Session) :
    FaultsBy (Fault tools s.workspace ⟨settings, showing.request file selection⟩)
      (loadEntries file selection) s := by
  rw [loadEntries]
  split
  · rename_i hsuffix
    refine .bind (faultsBy_loadProject .file fun bytes f => .encoding hsuffix)
      fun project s₁ _ _ => ?_
    refine .bind (.bind ?_ fun _ s₂ _ _ => Work.faultsBy_pure _ s₂)
      fun artifacts s₂ _ _ => Work.faultsBy_pure _ s₂
    exact Work.faultsBy_forM fun warning _ s' _ => Work.faultsBy_warn warning s'
  · exact faultsBy_loadList .file

/-- … and showing their entries adds nothing to that. -/
theorem faultsBy_show (showing : Showing) (file : Path) (selection : Pom.Selection)
    (s : Session) :
    FaultsBy (Fault tools s.workspace ⟨settings, showing.request file selection⟩)
      ((showing.request file selection).run tools fields) s := by
  have hentry {α : Type} (r : Except EntryError α) (s' : Session) :
      FaultsBy (Fault tools s.workspace ⟨settings, showing.request file selection⟩)
        (Work.ofExcept .entry r) s' :=
    Work.faultsBy_ofExcept (fun e _ hreported => nomatch hreported) s'
  cases showing with
  | conflicts =>
    refine (faultsBy_loadEntries .conflicts file selection s).bind fun entries s₁ _ _ => ?_
    refine .bind ?_ fun _ s₂ _ _ => Work.faultsBy_pure () s₂
    refine (hentry _ s₁).bind fun report s₂ _ _ => ?_
    exact (faultsBy_forM_print _ s₂).bind fun _ s₃ _ _ => Work.faultsBy_pure report s₃
  | tree =>
    refine (faultsBy_loadEntries .tree file selection s).bind fun entries s₁ _ _ => ?_
    exact (hentry _ s₁).bind fun lines s₂ _ _ => faultsBy_forM_print lines s₂

/-! ## Writing project object models -/

/-- The repository of the settings may be no path, or that of a user who is not known. -/
theorem fault_of_repositoryIn (h : repositoryIn fields w = .error f) :
    RepositoryFault w (settingsSection fields "dependencies") f := by
  rw [repositoryIn] at h
  split at h
  · cases h
  · rename_i text hfound
    rw [expandHome] at h
    split at h
    · cases h
    · rename_i hhome
      -- A user is not even looked for by a name with a NUL in it.
      split at h
      · rename_i hnul
        cases h
        obtain ⟨name, hname, hnul⟩ := (Option.any_eq_true _ _).1 hnul
        refine .nul hfound ⟨name, List.mem_append_right _ (List.mem_of_mem_head? hname), ?_⟩
        exact List.contains_iff_mem.1 hnul
      · cases h
        exact .home hfound hhome
  · rename_i v hkind hfound
    cases h
    exact .kind hfound fun ⟨text, htext⟩ => hkind text htext

/-- Adding a project object model faults by its path. -/
theorem faultsBy_addPom {Fault : Failure → Prop} {repository : Path} {a : Artifact}
    (h : s.workspace.HoldsNul (Pom.pomPath repository a) → Fault (.file .nulInPath)) :
    FaultsBy Fault (Pom.addPom repository a) s := by
  rw [Pom.addPom_eq]
  refine (Work.faultsBy_pathExists _ s).bind fun found s₁ _ h₁ => ?_
  have hnul {s' : Session} (hs' : s'.workspace.here = s₁.workspace.here)
      (hplace : s'.workspace.HoldsNul (Pom.pomPath repository a)) : Fault (.file .nulInPath) :=
    h ((Workspace.holdsNul_congr (hs'.trans h₁)).1 hplace)
  cases found with
  | true => exact Work.faultsBy_pure false s₁
  | false =>
    refine .bind (Work.faultsBy_makeDirectories fun hplace => hnul rfl hplace.of_parent)
      fun _ s₂ _ h₂ => ?_
    exact .bind (Work.faultsBy_writeText (hnul h₂) _) fun _ s₃ _ _ => Work.faultsBy_pure true s₃

/-- Adding many of them faults by the paths, or by the repository of the settings. -/
theorem faultsBy_addPoms (tools : Tools) (repository : Option Path) (specs : List String)
    (hfields : settingsAt s.workspace settings = .ok fields) :
    FaultsBy (Fault tools s.workspace ⟨settings, .poms specs repository⟩)
      (addPoms fields repository specs) s := by
  have hadd {root : Path} (hroot : repositoryAt s.workspace settings repository = .ok root) :
      FaultsBy (Fault tools s.workspace ⟨settings, .poms specs repository⟩)
        (specs.forM (addPomFor root)) s := by
    refine Work.faultsBy_forM fun spec hspec s₁ h₁ => ?_
    refine .bind (Work.faultsBy_ofExcept (fun e _ hreported => nomatch hreported) s₁)
      fun a s₂ ha h₂ => ?_
    obtain ⟨htold, -⟩ := Work.eq_of_runIn_ofExcept ha
    refine .bind (faultsBy_addPom fun h => ?_) fun written s₃ _ _ => ?_
    · exact .pom hroot hspec htold ((Workspace.holdsNul_congr (h₂.trans h₁)).1 h)
    · cases written <;> exact Work.faultsBy_print _ s₃
  cases repository with
  | some root => exact hadd rfl
  | none =>
    refine (Work.faultsBy_get s).bind fun session s' h' _ => ?_
    cases h'
    refine .bind (Work.faultsBy_ofExcept (fun f hf _ => ?_) s) fun root s₁ h₁ _ => ?_
    · exact .repository hfields (fault_of_repositoryIn hf)
    · obtain ⟨hroot, rfl⟩ := Work.eq_of_runIn_ofExcept h₁
      exact hadd (by rw [repositoryAt, hfields]; exact hroot)

/-! ## Reports -/

/-- A configuration faults by the settings file that it is in, or by one of its settings. -/
theorem fault_of_configAt {file : Path} {task : ReportTask}
    (horigin : origin ∈ origins file projects) (h : configAt w origin = .error f)
    (hreported : f.isReported = false) :
    Fault tools w ⟨file, .reports task projects⟩ f := by
  rcases bind_eq_error_iff.1 h with h | ⟨fields, hfields, h⟩
  · obtain ⟨bytes, hread, hbytes⟩ := fault_of_settingsAt h hreported
    exact .settings (List.mem_map_of_mem horigin) hread hbytes
  · exact .setting horigin hfields (Checkstyle.fault_of_ofSettings h hreported)

/-- When projects are combined, only the stylesheet may be that of a project. All else that a run
    can be at fault for is told of the base. -/
theorem runFault_of_combines {configs : List Config} {base c : Config}
    (h : Checkstyle.Combines configs base c) (hf : c.RunFault tools w f) :
    base.RunFault tools w f ∨ ∃ d ∈ configs, d.RunFault tools w f := by
  cases hf with
  | engine given failed =>
    rcases (h.style _).1 given with hbase | ⟨-, hnamed⟩
    · exact .inl (.engine hbase failed)
    · obtain ⟨d, hd, hstyle⟩ := List.mem_map.1 hnamed.1
      exact .inr ⟨d, hd, .engine hstyle failed⟩
  | reportDir hnul =>
    rw [← h.rest]
    exact .inl (.reportDir hnul)
  | dataFile hnul =>
    rw [← h.rest]
    exact .inl (.dataFile hnul)
  | stray hstray =>
    rw [← h.rest]
    exact .inl (.stray hstray)
  | report ended hreport => exact .inl (.report ended hreport)
  | command failed => exact .inl (.command failed)

/-- Combining projects reads nothing, and all of its failures are told. -/
theorem faultsBy_aggregate {Fault : Failure → Prop} (configs : List Config) (base : Config)
    (s : Session) : FaultsBy Fault (Checkstyle.aggregate configs base) s := by
  have hprint {α : Type} (line : String) (a : α) (s' : Session) :
      FaultsBy Fault (do Work.print line; return a) s' :=
    (Work.faultsBy_print line s').bind fun _ s'' _ _ => Work.faultsBy_pure a s''
  refine .bind ?_ fun rules s₁ _ _ => .bind ?_ fun style s₂ _ _ => Work.faultsBy_pure _ s₂
  · rw [Checkstyle.commonRules]
    split
    · exact Work.faultsBy_pure _ s
    · split
      · exact hprint _ _ s
      · exact Work.faultsBy_throw rfl s
  · rw [Checkstyle.commonStyle]
    split
    · exact Work.faultsBy_pure _ s₁
    · split
      · exact Work.faultsBy_pure _ s₁
      · exact hprint _ _ s₁
      · exact Work.faultsBy_throw rfl s₁

theorem faultsBy_configIn {task : ReportTask}
    (hfields : settingsAt s.workspace settings = .ok fields) :
    FaultsBy (Fault tools s.workspace ⟨settings, .reports task projects⟩)
      (configIn fields .here) s :=
  Work.faultsBy_ofExcept (fun _ hf hreported => .setting List.mem_cons_self hfields
    (Checkstyle.fault_of_ofSettings hf hreported)) s

/-- The configuration of the run is that at its own settings file. -/
theorem configAt_of_runIn {c : Config} {s' : Session}
    (hfields : settingsAt s.workspace settings = .ok fields)
    (h : (configIn fields .here).runIn s = (.ok c, s')) :
    configAt s.workspace (settings, .here) = .ok c ∧ s' = s := by
  obtain ⟨hc, rfl⟩ := Work.eq_of_runIn_ofExcept h
  exact ⟨bind_eq_ok_iff.2 ⟨fields, hfields, hc⟩, rfl⟩

/-- The configurations of the projects fault at their settings files. -/
theorem faultsBy_projectConfigs {task : ReportTask} (projects : List Path) (s : Session) :
    FaultsBy (Fault tools s.workspace ⟨settings, .reports task projects⟩)
      (projectConfigs projects) s := by
  refine .of_runIn (runIn_projectConfigs projects s) fun _ hf hreported => ?_
  obtain ⟨origin, horigin, hconfig⟩ := exists_of_mapM_eq_error hf
  exact fault_of_configAt (List.mem_cons_of_mem _ horigin) hconfig hreported

/-- So do they when they are combined for a run. -/
theorem faultsBy_runConfig {task : ReportTask}
    (hfields : settingsAt s.workspace settings = .ok fields) :
    FaultsBy (Fault tools s.workspace ⟨settings, .reports task projects⟩)
      (runConfig fields projects) s := by
  refine (faultsBy_configIn hfields).bind fun base s₁ h₁ _ => ?_
  obtain ⟨-, rfl⟩ := configAt_of_runIn hfields h₁
  split
  · exact Work.faultsBy_pure base s₁
  · exact (faultsBy_projectConfigs projects s₁).bind fun configs s₂ _ _ =>
      faultsBy_aggregate configs base s₂

/-- What a run can be at fault for is told by the settings. -/
theorem fault_of_runFault {task : ReportTask} {c : Config} {s' : Session}
    (hfields : settingsAt s.workspace settings = .ok fields)
    (hconfig : (runConfig fields projects).runIn s = (.ok c, s'))
    (h : c.RunFault tools s.workspace f) :
    Fault tools s.workspace ⟨settings, .reports task projects⟩ f := by
  obtain ⟨base, s₁, hread, hrest⟩ := Work.runIn_bind_eq_ok hconfig
  obtain ⟨hbase, rfl⟩ := configAt_of_runIn hfields hread
  split at hrest
  · cases hrest
    exact .run List.mem_cons_self hbase h
  · obtain ⟨configs, s₂, hconfigs, hcombined⟩ := Work.runIn_bind_eq_ok hrest
    rw [runIn_projectConfigs] at hconfigs
    obtain ⟨hprojects, rfl⟩ := Prod.mk.inj hconfigs
    -- Combined projects are at fault as one of them is, or the base.
    rcases Checkstyle.aggregate_cases configs base s₁ with ⟨-, e, he⟩ | ⟨-, r, hr, hcombines⟩
    · rw [hcombined] at he
      cases he
    · rw [hcombined] at hr
      cases hr
      rcases runFault_of_combines hcombines h with h | ⟨d, hd, h⟩
      · exact .run List.mem_cons_self hbase h
      · obtain ⟨origin, horigin, hd⟩ := ((mapM_eq_ok hprojects).2 d).1 hd
        exact .run (List.mem_cons_of_mem _ horigin) hd h

/-- Cleaning faults by the reports of one of the configurations. -/
theorem faultsBy_cleanAll (hfields : settingsAt s.workspace settings = .ok fields) :
    FaultsBy (Fault tools s.workspace ⟨settings, .reports .clean projects⟩)
      (cleanAll fields projects) s := by
  refine (faultsBy_configIn hfields).bind fun base s₁ h₁ _ => ?_
  obtain ⟨hbase, rfl⟩ := configAt_of_runIn hfields h₁
  refine (faultsBy_projectConfigs projects s₁).bind fun others s₂ h₂ h₂' => ?_
  rw [runIn_projectConfigs] at h₂
  obtain ⟨hothers, rfl⟩ := Prod.mk.inj h₂
  refine Work.faultsBy_forM fun c hc s₃ h₃ => ?_
  obtain ⟨origin, horigin, hconfig⟩ : ∃ origin ∈ origins settings projects,
      configAt s₁.workspace origin = .ok c := by
    rcases List.mem_cons.1 hc with rfl | hc
    · exact ⟨_, List.mem_cons_self, hbase⟩
    · obtain ⟨origin, horigin, hconfig⟩ := ((mapM_eq_ok hothers).2 c).1 hc
      exact ⟨origin, List.mem_cons_of_mem _ horigin, hconfig⟩
  exact (Config.faultsBy_clean h₃).mono fun _ => .run horigin hconfig

/-- The tasks for reports fault by the configurations, and then by what the run is given. -/
theorem faultsBy_reports (task : ReportTask)
    (hfields : settingsAt s.workspace settings = .ok fields) :
    FaultsBy (Fault tools s.workspace ⟨settings, .reports task projects⟩)
      (report tools fields projects task) s := by
  -- All tasks but one start by creating the report.
  have hcreate {β : Type} {next : Config → Checkstyle.Result → Work β}
      (hnext : ∀ c r s', r.isShowable → s'.workspace.here = s.workspace.here →
        FaultsBy (c.RunFault tools s.workspace) (next c r) s') :
      FaultsBy (Fault tools s.workspace ⟨settings, .reports task projects⟩)
        (do
          let c ← runConfig fields projects
          let r ← c.createReport tools.runner
          next c r) s := by
    refine (faultsBy_runConfig hfields).bind fun c s₁ hconfig h₁ => ?_
    refine FaultsBy.mono ?_ fun _ => fault_of_runFault hfields hconfig
    refine (Config.faultsBy_createReport h₁).bind fun r s₂ hr h₂ => ?_
    exact hnext c r s₂ (Config.isShowable_of_createReport hr) (h₂.trans h₁)
  cases task with
  | xml => exact hcreate fun c r s' _ _ => Work.faultsBy_pure () s'
  | html => exact hcreate fun c r s' hr h' =>
      (Config.faultsBy_createPage h' hr).bind fun _ s'' _ _ => Work.faultsBy_pure () s''
  | check => exact hcreate fun c r s' _ h' =>
      (Config.faultsBy_checkLimits h' r).bind fun _ s'' _ _ => Work.faultsBy_print _ s''
  -- Cleaning needs no report.
  | clean => exact faultsBy_cleanAll hfields

/-! ## All invocations -/

/-- Whatever is asked for faults only as it may. -/
theorem faultsBy_perform (tools : Tools) (i : Invocation) (s : Session) :
    FaultsBy (Fault tools s.workspace i) (i.perform tools) s := by
  obtain ⟨settings, request⟩ := i
  refine .bind (.of_runIn (runIn_loadSettings settings s) fun f hf hreported => ?_)
    fun fields s₁ h₁ _ => ?_
  · obtain ⟨bytes, hread, hbytes⟩ := fault_of_settingsAt hf hreported
    refine .settings ?_ hread hbytes
    cases request <;> exact List.mem_cons_self
  · rw [runIn_loadSettings] at h₁
    obtain ⟨hfields, rfl⟩ := Prod.mk.inj h₁
    cases request with
    | conflicts file selection => exact faultsBy_show .conflicts file selection s
    | tree file selection => exact faultsBy_show .tree file selection s
    | poms specs repository => exact faultsBy_addPoms tools repository specs hfields
    | reports task projects => exact faultsBy_reports task hfields

/-- The program ends with the exit status zero or one. -/
def Ends (tools : Tools) (i : Invocation) (s : Session) : Prop :=
  ∃ status, ((i.run tools).runIn s).1 = .ok status ∧ status ≤ 1

instance (tools : Tools) (i : Invocation) (s : Session) : Decidable (Ends tools i s) :=
  inferInstanceAs (Decidable (∃ status, ((i.run tools).runIn s).1 = .ok status ∧ status ≤ 1))

/-- Whatever the program is asked to do, whatever is in its files and the reports, and whatever
    becomes of commands and stylesheets, it ends with the exit status zero or one, unless there
    is a fault in its input or of its tools, of which the user is not told. A fault in the settings
    file always keeps it from ending so. -/
theorem ends_or_fault (tools : Tools) (i : Invocation) (s : Session) :
    (Ends tools i s ∨ ∃ f, ((i.run tools).runIn s).1 = .error f ∧ f.isReported = false ∧
      Fault tools s.workspace i f) ∧
    ∀ bytes f, s.workspace.readFile i.settings = .ok bytes → SettingsFault bytes f →
      ((i.run tools).runIn s).1 = .error f := by
  rw [Ends, Invocation.run, runIn_exitStatus]
  refine ⟨?_, fun bytes f hread hfault => ?_⟩
  · have hfault := (faultsBy_perform tools i s).fault
    generalize (i.perform tools).runIn s = run at hfault
    obtain ⟨f | _, s'⟩ := run
    · cases hreported : f.isReported with
      | true => exact .inl ⟨1, by simp only [hreported, if_true], Nat.le_refl 1⟩
      | false =>
        exact .inr ⟨f, by simp [hreported], hreported, hfault f rfl hreported⟩
    · exact .inl ⟨0, rfl, Nat.zero_le 1⟩
  · obtain ⟨hsettings, hreported⟩ := hfault.settingsOf_eq i.settings
    rw [Invocation.perform, Work.runIn_bind, runIn_loadSettings, settingsAt_of_readFile hread,
      hsettings]
    simp only [hreported]
    rfl

/-- A settings file that is no text. -/
def undecodableSample : Session where
  workspace :=
    { here := ["w"], home := []
      files := treeOf
        [(["w"], .directory), (["w", "build.toml"], .file ⟨#[0xFF]⟩),
          (["w", "deps.txt"], .file "g:a:1\n".toUTF8)] }

/-- Settings in which a number stands for the sources. -/
def numberSample : Session where
  workspace := .holding [("build.toml", "[checkstyle]\nsources = 3\n")]

/-- A project object model in an unknown encoding. -/
def encodingSample : Session where
  workspace := .holding [("pom.xml", "<?xml version=\"1.0\" encoding=\"x\"?><project/>")]

/-- Settings files, values in them, project object models and reports keep the program from
    ending with an exit status. -/
theorem not_ends_samples :
    ¬Ends idleTools ⟨defaultSettingsFile, .tree (.ofString "deps.txt") {}⟩ undecodableSample ∧
    ¬Ends idleTools ⟨defaultSettingsFile, .reports .xml []⟩ numberSample ∧
    ¬Ends idleTools ⟨defaultSettingsFile, .conflicts (.ofString "pom.xml") {}⟩ encodingSample ∧
    ¬Ends (writing "<checkstyle><file><error line=\"x\"/></file></checkstyle>")
      ⟨defaultSettingsFile, .reports .check []⟩ gateSample := by
  refine ⟨?_, ?_, ?_, ?_⟩ <;> decide +kernel

end CommandLine

end JavaBuild
