import JavaBuild.Proofs.Checkstyle.Clean
import JavaBuild.Proofs.Path
import JavaBuild.Proofs.Work
import JavaBuild.Stylesheet.Basic

/-!
# Files that runs of Checkstyle leave alone

Every call with a configuration goes by steps of a few kinds (`Config.Step`): it makes
directories, writes and removes the data file, lets an engine apply the stylesheet, writes the
page in the directory of the reports, or removes this directory. What an engine does to the
files is its own affair. If it is confined to those of the configuration
(`Config.Confines`), none of these steps touches a file elsewhere, so no calls do, be it half way
through one of them; and when the last call has removed the reports, the files are those that
were elsewhere at first (`Config.calls_keep_files`).
-/

namespace JavaBuild

open Relation (ReflTransGen)

/-! ## Files -/

/-- What is there after something has been removed was there before. -/
theorem FileTree.get?_of_prune {t : FileTree} {l m : Location} {node : FileNode}
    (h : (t.prune l).get? m = some node) : t.get? m = some node := by
  by_cases hm : m = []
  · rw [hm, get?_nil] at h ⊢
    exact h
  · rw [get?, if_neg hm, prune, Nodes.lookup_prune] at h
    rw [get?, if_neg hm]
    split at h
    · cases h
    · exact h

namespace Workspace

variable {w w' w'' : Workspace} {p : Path} {bytes : ByteArray} {P Q : Location → Prop}

/-- The files are the same, but for some locations. -/
structure KeepsFiles (P : Location → Prop) (w w' : Workspace) : Prop where
  frame : w.withFiles w'.files = w'
  file_iff : ∀ l bytes, ¬P l →
    (w'.files.get? l = some (.file bytes) ↔ w.files.get? l = some (.file bytes))

/-- Where nothing changes, no file does. -/
theorem Keeps.keepsFiles (h : Keeps P w w') : KeepsFiles P w w' :=
  ⟨h.frame, fun l _ hl => by rw [h.kept l hl]⟩

/-- Making a directory touches no file, … -/
theorem keepsFiles_of_makeDirectory (P : Location → Prop) (h : w.makeDirectory p = .ok w') :
    KeepsFiles P w w' :=
  ⟨(makeDirectory_grows h).frame, fun _ _ _ => (makeDirectory_grows h).file_iff⟩

/-- … and writing a file no other one. -/
theorem keepsFiles_of_writeFile (h : w.writeFile p bytes = .ok w') (hp : P (w.place p)) :
    KeepsFiles P w w' where
  frame := withFiles_writeFile h
  file_iff l _ hl := by
    rw [get?_writeFile h, if_neg]
    rintro rfl
    exact hl hp

/-- There may be a directory in the place of what is removed, but no file. -/
theorem keepsFiles_of_removeTree (h : w.removeTree p = .ok w') (hp : p ≠ .here) :
    KeepsFiles (fun l => w.place p <+: l ∧ l ≠ w.place p) w w' where
  frame := (keeps_removeTree h).frame
  file_iff l bytes hl := by
    -- At the place itself there was a directory, and afterwards there is no file.
    by_cases hplace : l = w.place p
    · obtain ⟨m, hi, rfl⟩ := removeTree_eq_ok_iff.1 h
      obtain ⟨hlocate, hnode⟩ := inspect_eq_ok_iff.1 hi
      rw [node?_of_ne hp, place_of_locate hlocate, ← hplace] at hnode
      rw [hnode]
      refine ⟨fun hfile => ?_, fun hfile => nomatch hfile⟩
      rw [← hnode]
      exact FileTree.get?_of_prune hfile
    · rw [(keeps_removeTree h).kept l fun hbelow => hl ⟨hbelow, hplace⟩]

namespace KeepsFiles

theorem refl (P : Location → Prop) (w : Workspace) : KeepsFiles P w w :=
  ⟨rfl, fun _ _ _ => .rfl⟩

/-- The working directory is the same. -/
theorem here (h : KeepsFiles P w w') : w'.here = w.here := here_of_withFiles h.frame

theorem place (h : KeepsFiles P w w') (p : Path) : w'.place p = w.place p := place_congr h.here p

theorem mono (h : KeepsFiles P w w') (hPQ : ∀ l, P l → Q l) : KeepsFiles Q w w' :=
  ⟨h.frame, fun l bytes hl => h.file_iff l bytes (mt (hPQ l) hl)⟩

theorem trans (h : KeepsFiles P w w') (h' : KeepsFiles P w' w'') : KeepsFiles P w w'' where
  frame := withFiles_trans h.frame h'.frame
  file_iff l bytes hl := (h'.file_iff l bytes hl).trans (h.file_iff l bytes hl)

end KeepsFiles

end Workspace

namespace Checkstyle

open Work (GoesBy)
open Workspace (Clears KeepsFiles)

/-- Reading a report leaves all as it is. -/
theorem runIn_loadReport_snd (data : Path) (s : Session) : ((loadReport data).runIn s).2 = s := by
  simp only [loadReport, Work.runIn_bind, Work.runIn_get]
  split
  · rw [Work.runIn_ofExcept]
  · rfl
  · rfl

/-- An engine only reads if it leaves the files as they are. -/
def Engine.OnlyReads (engine : Engine) : Prop :=
  ∀ (w : Workspace) (data style : Path), (engine w data style).2 = w.files

/-- The page is what the engine makes it, and the files are as the engine leaves them. -/
theorem runIn_renderPage (engine : Engine) (data style : Path) (s : Session) :
    (renderPage engine data style).runIn s =
      ((engine s.workspace data style).1.content data style,
        { s with workspace := s.workspace.withFiles (engine s.workspace data style).2 }) := by
  simp only [renderPage, Work.runIn_bind, Work.runIn_get, Work.runIn_modify,
    Work.runIn_ofExcept]
  cases (engine s.workspace data style).1.content data style <;> rfl

/-- A call with a configuration. -/
inductive Call where
  | createReport (runner : Runner)
  | createPage (escapes : Text.Escapes) (engine : Engine) (result : Option Result)
  | clean

namespace Config

variable {c : Config} {calls : List Call} {escapes : Text.Escapes} {engine : Engine}
  {s s' : Session} {w w' : Workspace}

/-- The locations of the files of a configuration: its data file, and all below the
    directory of its reports. -/
def OwnsFile (c : Config) (w : Workspace) (l : Location) : Prop :=
  l = w.place c.dataFile ∨ (w.place c.reportDir <+: l ∧ l ≠ w.place c.reportDir)

/-- Which files are its own depends on the working directory alone. -/
theorem ownsFile_congr (h : w'.here = w.here) (c : Config) (l : Location) :
    c.OwnsFile w' l ↔ c.OwnsFile w l := by
  rw [OwnsFile, OwnsFile, Workspace.place_congr h, Workspace.place_congr h]

/-- An engine writes and removes no files but those of a configuration when it applies its
    stylesheet: the page is for the caller to write, and further documents that a stylesheet
    may ask for are among the reports. -/
def Confines (c : Config) (engine : Engine) : Prop :=
  ∀ w style, c.style = some style →
    KeepsFiles (c.OwnsFile w) w (w.withFiles (engine w c.dataFile style).2)

/-- Such is an engine that only reads. -/
theorem confines_of_onlyReads (c : Config) (h : engine.OnlyReads) : c.Confines engine := by
  intro w style _
  rw [h w c.dataFile style]
  exact .refl _ w

/-! ## Steps -/

/-- A change of the files by one of some calls. -/
inductive Step (c : Config) (calls : List Call) (w w' : Workspace) : Prop
  | makeDirectory (p : Path) (h : w.makeDirectory p = .ok w')
  | writeData (bytes : ByteArray) (h : w.writeFile c.dataFile bytes = .ok w')
  | removeData (h : w.removeFile c.dataFile = .ok w')
  /-- What the engine of a call does to the files. -/
  | applyStyle {escapes : Text.Escapes} {engine : Engine} {result : Option Result} {style : Path}
    (call_mem : .createPage escapes engine result ∈ calls) (given : c.style = some style)
    (h : w.withFiles (engine w c.dataFile style).2 = w')
  | writePage (p : Path) (bytes : ByteArray)
    (hp : w.place p = w.place c.reportDir ++ [pageName]) (h : w.writeFile p bytes = .ok w')
  | removeReports (p : Path) (hp : w.resolve c.reportDir = .ok p) (h : w.removeTree p = .ok w')

/-- A change of the files by a run, which neither writes a page nor removes reports. -/
inductive RunStep (c : Config) (w w' : Workspace) : Prop
  | makeDirectory (p : Path) (h : w.makeDirectory p = .ok w')
  | writeData (bytes : ByteArray) (h : w.writeFile c.dataFile bytes = .ok w')
  | removeData (h : w.removeFile c.dataFile = .ok w')

theorem RunStep.step (h : c.RunStep w w') : c.Step calls w w' := by
  cases h with
  | makeDirectory p h => exact .makeDirectory p h
  | writeData bytes h => exact .writeData bytes h
  | removeData h => exact .removeData h

/-- A step touches no files elsewhere. -/
theorem Step.keepsFiles (hconfined : ∀ escapes engine result,
    .createPage escapes engine result ∈ calls → c.Confines engine) (h : c.Step calls w w') :
    KeepsFiles (c.OwnsFile w) w w' := by
  cases h with
  | applyStyle call_mem given h =>
    rw [← h]
    exact hconfined _ _ _ call_mem w _ given
  | makeDirectory p h => exact Workspace.keepsFiles_of_makeDirectory _ h
  | writeData bytes h => exact Workspace.keepsFiles_of_writeFile h (.inl rfl)
  | removeData h => exact (Workspace.clears_removeFile h).keepsFiles.mono fun _ => .inl
  | writePage p bytes hp h =>
    refine Workspace.keepsFiles_of_writeFile h (.inr ?_)
    rw [hp]
    exact ⟨List.prefix_append _ _, by simp⟩
  | removeReports p hp h =>
    have hplace := (Workspace.place_of_resolve hp).2
    have hne : p ≠ .here := by
      obtain ⟨-, -, rfl⟩ := Workspace.resolve_eq_ok_iff.1 hp
      exact fun hhere => nomatch congrArg Path.anchor hhere
    refine (Workspace.keepsFiles_of_removeTree h hne).mono fun l hl => .inr ?_
    rwa [hplace] at hl

/-- Nor do any number of steps. -/
theorem keepsFiles_of_steps (hconfined : ∀ escapes engine result,
    .createPage escapes engine result ∈ calls → c.Confines engine)
    (h : ReflTransGen (c.Step calls) w w') : KeepsFiles (c.OwnsFile w) w w' := by
  -- The working directory stays, so the own files of the last step are those of the first.
  induction h with
  | refl => exact .refl _ _
  | tail _ hstep ih =>
    exact ih.trans ((hstep.keepsFiles hconfined).mono fun l => (ownsFile_congr ih.here _ l).1)

/-- No step leads to another working directory, whatever engines do. -/
theorem Step.here (h : c.Step calls w w') : w'.here = w.here := by
  cases h with
  | applyStyle _ _ h =>
    rw [← h]
    rfl
  | makeDirectory p h => exact (Workspace.makeDirectory_grows h).here
  | writeData bytes h => exact Workspace.here_of_withFiles (Workspace.withFiles_writeFile h)
  | removeData h => exact Workspace.here_of_removeFile h
  | writePage p bytes hp h => exact Workspace.here_of_withFiles (Workspace.withFiles_writeFile h)
  | removeReports p hp h => exact Workspace.here_of_removeTree h

theorem here_of_steps (h : ReflTransGen (c.Step calls) w w') : w'.here = w.here := by
  induction h with
  | refl => rfl
  | tail _ hstep ih => exact hstep.here.trans ih

/-! ## Work by steps -/

theorem goesByRun_makeDirectories (c : Config) (p : Path) (s : Session) :
    GoesBy c.RunStep (Work.makeDirectories p) s :=
  Work.goesBy_makeDirectories (fun p _ _ => .makeDirectory p) p s

theorem goesBy_makeDirectories (c : Config) (p : Path) (s : Session) :
    GoesBy (c.Step calls) (Work.makeDirectories p) s :=
  (c.goesByRun_makeDirectories p s).mono fun _ _ => RunStep.step

/-- A run makes directories, and removes the report of an earlier one, … -/
theorem goesBy_prepare (c : Config) (s : Session) : GoesBy c.RunStep c.prepare s := by
  refine .bind ((Work.goesBy_inspect _ s).bind fun q s' _ => c.goesByRun_makeDirectories q s')
    fun _ s' _ => ?_
  refine (c.goesByRun_makeDirectories _ s').bind fun _ s' _ => ?_
  refine (Work.goesBy_inspect _ s').bind fun found s' _ => ?_
  cases found with
  | false => exact .of_eq rfl
  | true => exact Work.goesBy_change fun w h => .removeData h

/-- … its tool writes a report, … -/
theorem goesBy_writeReport (c : Config) (report : Option ByteArray) (s : Session) :
    GoesBy c.RunStep (c.writeReport report) s := by
  cases report with
  | none => exact .of_eq rfl
  | some bytes =>
    simp only [GoesBy, writeReport, Work.runIn_bind, Work.runIn_get]
    split
    · rename_i w hw
      exact .single (.writeData bytes hw)
    · exact .refl
    · exact .refl

/-- … which is then read, … -/
theorem goesBy_runOn (c : Config) (runner : Runner) (sources : List Path) (s : Session) :
    GoesBy c.RunStep (c.runOn runner sources) s := by
  refine (Work.goesBy_ofExcept _ _ s).bind fun command s' _ => ?_
  -- The runner itself touches no files: its report is written for it.
  refine .bind (.of_eq rfl) fun _ s' _ => ?_
  cases runner command with
  | failed report f => exact (c.goesBy_writeReport report s').bind fun _ s' _ => .of_eq rfl
  | ended report status errors =>
    refine (c.goesBy_writeReport report s').bind fun _ s' _ => ?_
    refine (Work.goesBy_inspect _ s').bind fun found s' _ => ?_
    cases found with
    | false => exact .of_eq rfl
    | true => exact .of_eq (congrArg Session.workspace (runIn_loadReport_snd c.dataFile s'))

/-- … or a report of nothing is written instead. -/
theorem goesByRun_createReport (c : Config) (runner : Runner) (s : Session) :
    GoesBy c.RunStep (c.createReport runner) s := by
  refine (c.goesBy_prepare s).bind fun _ s' _ => ?_
  refine .bind (.of_eq rfl) fun _ s' _ => ?_
  refine .bind (.of_eq rfl) fun session s' _ => ?_
  refine (Work.goesBy_ofExcept _ _ s').bind fun sources s' _ => ?_
  split
  · refine .bind (.of_eq rfl) fun _ s' _ => ?_
    refine .bind (Work.goesBy_change fun w h => .writeData _ h) fun _ s' _ => .of_eq rfl
  · exact c.goesBy_runOn runner sources s'

theorem goesBy_createReport (c : Config) (runner : Runner) (s : Session) :
    GoesBy (c.Step calls) (c.createReport runner) s :=
  (c.goesByRun_createReport runner s).mono fun _ _ => RunStep.step

/-- The page is directly in the directory of the reports. -/
theorem page_eq (c : Config) (w : Workspace) :
    c.page w = w.resolve ⟨c.reportDir.anchor, c.reportDir.parts ++ [pageName]⟩ := by
  have hname : Path.IsName pageName := by decide +kernel
  have hjoin : c.reportDir.join (.ofString pageName) =
      ⟨c.reportDir.anchor, c.reportDir.parts ++ [pageName]⟩ := by
    rw [Path.ofString_of_isName hname]
    rfl
  rw [← hjoin]
  rfl

/-- So is its place. -/
theorem place_of_page {p : Path} (h : c.page w = .ok p) :
    w.place p = w.place c.reportDir ++ [pageName] := by
  rw [page_eq] at h
  rw [(Workspace.place_of_resolve h).2]
  exact (Workspace.lexical_concat _ _ _).trans (if_neg (by decide))

theorem here_of_goesBy {α : Type} {t : Work α} {r : Except Failure α}
    (h : GoesBy (c.Step calls) t s) (hrun : t.runIn s = (r, s')) :
    s'.workspace.here = s.workspace.here := by
  unfold GoesBy at h
  rw [hrun] at h
  exact here_of_steps h

/-- Making the content of a page takes the one step of its engine, … -/
theorem goesBy_pageContent {result : Option Result} (c : Config)
    (hcall : .createPage escapes engine result ∈ calls) (s : Session) :
    GoesBy (c.Step calls) (c.pageContent engine result) s := by
  unfold pageContent
  split
  · rename_i style _ hstyle
    rw [GoesBy, runIn_renderPage]
    exact .single (.applyStyle hcall hstyle rfl)
  · exact Work.goesBy_ofExcept _ _ s
  · exact .bind (.of_eq (congrArg Session.workspace (runIn_loadReport_snd _ s)))
      fun _ s' _ => Work.goesBy_ofExcept _ _ s'

/-- … and then the page is written, in directories made for it. -/
theorem goesBy_createEscapedPage {result : Option Result} (c : Config)
    (hcall : .createPage escapes engine result ∈ calls) (s : Session) :
    GoesBy (c.Step calls) (c.createEscapedPage escapes engine result) s := by
  refine (Work.goesBy_inspect _ s).bind fun page s₁ h₁ => ?_
  obtain ⟨hpage, rfl⟩ := Work.eq_of_runIn_inspect h₁
  refine .bind (.of_eq rfl) fun _ s₂ h₂ => ?_
  refine (c.goesBy_pageContent hcall s₂).bind fun content s₃ h₃ => ?_
  have hmake : GoesBy (c.Step calls) (Work.makeDirectories page.parent) s₃ :=
    c.goesBy_makeDirectories page.parent s₃
  refine hmake.bind fun _ s₄ h₄ => ?_
  refine .bind (Work.goesBy_writeEscaped fun bytes w h => .writePage page bytes ?_ h)
    fun _ s₅ _ => .of_eq rfl
  -- The page is written where it was to be at first.
  have hhere : s₄.workspace.here = s₁.workspace.here :=
    (here_of_goesBy hmake h₄).trans <|
      (here_of_goesBy (c.goesBy_pageContent hcall s₂) h₃).trans <| by
        cases h₂
        rfl
  rw [Workspace.place_congr hhere, Workspace.place_congr hhere, place_of_page hpage]

/-- Removing the reports removes their directory and the data file. -/
theorem goesBy_clean (c : Config) (s : Session) : GoesBy (c.Step calls) c.clean s := by
  have hdata (s : Session) : GoesBy (c.Step calls) (Work.removeFile c.dataFile) s :=
    Work.goesBy_removeFile fun w h => .removeData h
  rw [GoesBy, runIn_clean]
  cases hresolve : s.workspace.resolve c.reportDir with
  | error e => exact .refl
  | ok reports =>
    -- If the reports are gone already, the data file is removed nonetheless.
    rcases hfind : s.workspace.find? reports with e | _ | node
    · simp only [hfind]
      exact .refl
    · simp only [hfind]
      exact hdata s
    · simp only [hfind]
      cases hremove : s.workspace.removeTree reports with
      | error e => exact .refl
      | ok w =>
        have hdir : c.Step calls s.workspace w := .removeReports reports hresolve hremove
        exact .head hdir (hdata { s with workspace := w })

/-! ## Calls -/

/-- What a call does. -/
def call (c : Config) : Call → Work Unit
  | .createReport runner => do let _ ← c.createReport runner
  | .createPage escapes engine result => do
    let _ ← c.createEscapedPage escapes engine result
  | .clean => c.clean

/-- The session after some calls, each of which may have failed. -/
def afterCalls (c : Config) (calls : List Call) (s : Session) : Session :=
  calls.foldl (fun s call => ((c.call call).runIn s).2) s

/-- Each call goes by its steps, … -/
theorem goesBy_call (c : Config) {call : Call} (hcall : call ∈ calls) (s : Session) :
    GoesBy (c.Step calls) (c.call call) s := by
  cases call with
  | createReport runner => exact (c.goesBy_createReport runner s).bind fun _ _ _ => .of_eq rfl
  | createPage escapes engine result =>
    exact (c.goesBy_createEscapedPage hcall s).bind fun _ _ _ => .of_eq rfl
  | clean => exact c.goesBy_clean s

/-- … and so do calls one after the other. -/
theorem steps_of_subset (c : Config) {done : List Call} (hdone : done ⊆ calls) (s : Session) :
    ReflTransGen (c.Step calls) s.workspace (c.afterCalls done s).workspace := by
  induction done generalizing s with
  | nil => exact .refl
  | cons call done ih =>
    rw [List.cons_subset] at hdone
    exact (c.goesBy_call hdone.1 s).trans (ih hdone.2 _)

/-- When reports have been removed, there is nothing of them left. -/
theorem clears_of_clean (hdots : ".." ∉ c.dataFile.parts)
    (haway : ¬s.workspace.place c.reportDir <+: s.workspace.here)
    (hnul : ∀ name ∈ s.workspace.here, '\x00' ∉ name.toList)
    (h : c.clean.runIn s = (.ok (), s')) :
    Clears (c.Owns s.workspace) s.workspace s'.workspace := by
  refine (clears_of_runIn_clean hdots (fun hnil => haway (hnil ▸ List.nil_prefix)) ?_ h).2
  rcases runIn_clean_cases c s with ⟨f, hf⟩ | ⟨reports, w, hresolve, -⟩
  · rw [h] at hf
    cases hf
  have hreports := (Workspace.resolve_eq_ok_iff.1 hresolve).1
  rw [Path.mem_toString_iff (by decide) (by decide)] at hreports ⊢
  rintro ⟨name, hname, hmem⟩
  -- A name on the way to the reports is of the working directory, or of their path.
  rcases Workspace.mem_of_mem_lexical hname with hstart | hpart
  · unfold Workspace.start at hstart
    split at hstart
    · exact hnul name hstart hmem
    · cases hstart
  · exact hreports ⟨name, hpart, hmem⟩

/-- Calls touch no files but their own, be it half way through one of them: they go by
    steps none of which does, as long as the engines for stylesheets do not either. When the
    reports have been removed in the end, the files are those that were elsewhere at first. (No
    name on the way to the working directory holds NUL, as no name of a file does.) -/
theorem calls_keep_files (c : Config) (calls : List Call) (s : Session)
    (hconfined : ∀ escapes engine result, .createPage escapes engine result ∈ calls →
      c.Confines engine) :
    ReflTransGen (c.Step calls) s.workspace (c.afterCalls calls s).workspace ∧
    (∀ w, ReflTransGen (c.Step calls) s.workspace w →
      KeepsFiles (c.OwnsFile s.workspace) s.workspace w) ∧
    (".." ∉ c.dataFile.parts → ¬s.workspace.place c.reportDir <+: s.workspace.here →
      (∀ name ∈ s.workspace.here, '\x00' ∉ name.toList) →
      ∀ s', c.clean.runIn (c.afterCalls calls s) = (.ok (), s') →
        s'.workspace.files.get? (s.workspace.place c.dataFile) = none ∧
        s'.workspace.files.get? (s.workspace.place c.reportDir) = none ∧
        ∀ l bytes, s'.workspace.files.get? l = some (.file bytes) ↔
          s.workspace.files.get? l = some (.file bytes) ∧ ¬c.Owns s.workspace l) := by
  have hsteps := c.steps_of_subset (List.Subset.refl calls) s
  refine ⟨hsteps, fun w => keepsFiles_of_steps hconfined, fun hdots haway hnul s' h => ?_⟩
  have hkeeps := keepsFiles_of_steps hconfined hsteps
  rw [← hkeeps.place, ← hkeeps.here] at haway
  rw [← hkeeps.here] at hnul
  have hclears := (clears_of_clean hdots haway hnul h).congr (owns_congr hkeeps.here c)
  refine ⟨hclears.gone _ (.inr rfl), hclears.gone _ (.inl List.prefix_rfl), fun l bytes => ?_⟩
  -- What the configuration owns is gone, and all else is as the calls have left it.
  by_cases hl : c.Owns s.workspace l
  · rw [hclears.gone l hl]
    simp [hl]
  · rw [hclears.kept l hl, hkeeps.file_iff l bytes fun hfile => hl ?_]
    · simp [hl]
    · exact hfile.symm.imp And.left id

/-- A configuration with a stylesheet in the working directory. -/
def styledSample : Config where
  style := some (.ofString "s.xsl")

/-- A stylesheet that makes a page of two letters of any report, and another file. -/
def styledFiles : Session where
  workspace := .holding [("keep.txt", "x"), ("s.xsl",
    "<t:stylesheet version=\"1.0\" xmlns:t=\"http://www.w3.org/1999/XSL/Transform\">" ++
      "<t:output method=\"text\"/><t:template match=\"/checkstyle\">ok</t:template>" ++
      "</t:stylesheet>")]

/-- A run that reports nothing, and a page by the stylesheet. -/
def styledCalls : List Call :=
  [.createReport fun _ => .ended none 0 "", .createPage .privateUse Stylesheet.engine none]

/-- A report and a page, and what removing them leaves. -/
theorem calls_keep_files_sample :
    (∀ escapes engine result, .createPage escapes engine result ∈ styledCalls →
      styledSample.Confines engine) ∧
    (∀ file ∈ [styledSample.dataFile, styledSample.reportDir.join (.ofString pageName)],
      ((styledSample.afterCalls styledCalls styledFiles).workspace.files.get?
        (styledFiles.workspace.place file)).isSome) ∧
    ∃ s',
      styledSample.clean.runIn (styledSample.afterCalls styledCalls styledFiles) = (.ok (), s') ∧
      s'.workspace.files.get? (styledFiles.workspace.place styledSample.dataFile) = none ∧
      s'.workspace.files.get? (styledFiles.workspace.place styledSample.reportDir) = none ∧
      s'.workspace.files.get? ["w", "keep.txt"] = some (.file "x".toUTF8) := by
  have hconfined : ∀ escapes engine result, .createPage escapes engine result ∈ styledCalls →
      styledSample.Confines engine := by
    intro escapes engine result hcall
    have hengine : engine = Stylesheet.engine := by
      simp only [styledCalls, List.mem_cons, List.not_mem_nil, or_false, reduceCtorEq, false_or,
        Call.createPage.injEq] at hcall
      exact hcall.2.1
    rw [hengine]
    exact confines_of_onlyReads styledSample fun _ _ _ => rfl
  have hok : (styledSample.clean.runIn
      (styledSample.afterCalls styledCalls styledFiles)).1.isOk := by decide +kernel
  refine ⟨hconfined, by decide +kernel, ?_⟩
  rcases hrun : styledSample.clean.runIn (styledSample.afterCalls styledCalls styledFiles) with
    ⟨f | ⟨⟩, s'⟩
  · rw [hrun] at hok
    cases hok
  · obtain ⟨hdata, hreports, hfiles⟩ :=
      (calls_keep_files styledSample styledCalls styledFiles hconfined).2.2 (by decide +kernel)
        (by decide +kernel) (by decide +kernel) s' hrun
    exact ⟨s', rfl, hdata, hreports, (hfiles _ _).2 ⟨rfl, by decide +kernel⟩⟩

end Config

end Checkstyle

end JavaBuild
