import JavaBuild.Proofs.CommandLine.Cleaning
import JavaBuild.Proofs.Pom.Again

/-!
# Adding to a repository by specs

Specs have their turns one after the other, until one is malformed or a file operation fails.
In its turn, a project object model is found or a file is added where nothing was (`Taken`),
so all files stay as they are. As all that has had its turn is found afterwards, and what has
failed fails again, a second run comes to the same exit status and adds nothing
(`poms_added_once`).

This needs a repository that descends from a directory that is there. If its path goes up
from a directory that is missing, a project object model is not found where it is, and
written over once that directory has been made (`not_forall_poms_kept`).
-/

namespace JavaBuild.CommandLine

open Checkstyle (Tools)
open Pom (Placeable addPom pomPath minimalPom)
open Workspace (AddsFile Extends)

variable {repository settings : Path} {spec : String} {specs : List String} {a : Artifact}
  {s s' t : Session} {w w' w'' : Workspace} {tools : Tools} {fields : Toml.Fields}

/-! ## Turns -/

/-- An artifact that has had its turn, with whether its project object model was written. -/
abbrev Turn := Artifact × Bool

variable {turn : Turn} {turns : List Turn}

/-- The line that tells of a turn. -/
def Turn.line (repository : Path) (turn : Turn) : String :=
  if turn.2 then s!"  ✓ {pomPath repository turn.1}"
  else s!"  ⏭ {pomPath repository turn.1} (already exists)"

/-- What happens in a turn: the project object model is found, or written where nothing was. -/
inductive Taken (repository : Path) : Workspace → Turn → Workspace → Prop
  | found {w : Workspace} {a : Artifact} (h : w.pathExists (pomPath repository a) = .ok true) :
    Taken repository w (a, false) w
  | written {w w' : Workspace} {a : Artifact}
    (h : w.pathExists (pomPath repository a) = .ok false)
    (adds : AddsFile (w.place (pomPath repository a)) (minimalPom a).toUTF8 w w') :
    Taken repository w (a, true) w'

/-- Turns that are taken one after the other. -/
inductive TakenInTurn (repository : Path) : Workspace → List Turn → Workspace → Prop
  | done (w : Workspace) : TakenInTurn repository w [] w
  | next {w w' w'' : Workspace} {turn : Turn} {turns : List Turn}
    (first : Taken repository w turn w') (rest : TakenInTurn repository w' turns w'') :
    TakenInTurn repository w (turn :: turns) w''

theorem Taken.extends (h : Taken repository w turn w') : Extends w w' := by
  cases h with
  | found => exact .refl _
  | written _ adds => exact adds.toExtends

/-- The files after a turn are those of before, and the one that has been written. -/
theorem Taken.file_iff (h : Taken repository w turn w') (l : Location) (bytes : ByteArray) :
    w'.files.get? l = some (.file bytes) ↔ w.files.get? l = some (.file bytes) ∨
      (turn.2 = true ∧ l = w.place (pomPath repository turn.1) ∧
        bytes = (minimalPom turn.1).toUTF8) := by
  cases h with
  | found => simp
  | written _ adds => simpa using adds.file_iff l bytes

theorem TakenInTurn.file_iff (h : TakenInTurn repository w turns w') (l : Location)
    (bytes : ByteArray) :
    w'.files.get? l = some (.file bytes) ↔ w.files.get? l = some (.file bytes) ∨
      ∃ a, (a, true) ∈ turns ∧ l = w.place (pomPath repository a) ∧
        bytes = (minimalPom a).toUTF8 := by
  induction h with
  | done => simp
  | @next w w' w'' turn turns first rest ih =>
    obtain ⟨a, written⟩ := turn
    rw [ih, first.file_iff, or_assoc]
    refine or_congr_right ?_
    simp only [first.extends.place, List.mem_cons, Prod.mk.injEq, or_and_right, exists_or]
    refine or_congr_left ?_
    constructor
    · rintro ⟨rfl, hl, hbytes⟩
      exact ⟨a, ⟨rfl, rfl⟩, hl, hbytes⟩
    · rintro ⟨b, ⟨rfl, hwritten⟩, hl, hbytes⟩
      exact ⟨hwritten.symm, hl, hbytes⟩

theorem TakenInTurn.vacant (h : TakenInTurn repository w turns w') (ha : (a, true) ∈ turns) :
    w.files.get? (w.place (pomPath repository a)) = none := by
  induction h with
  | done => cases ha
  | @next w w' w'' turn turns first rest ih =>
    rcases List.mem_cons.1 ha with rfl | ha
    · cases first with
      | written _ adds => exact adds.vacant
    · rw [Option.eq_none_iff_forall_ne_some]
      intro node hnode
      have hnone := ih ha
      rw [first.extends.place, first.extends.kept _ _ hnode] at hnone
      cases hnone

/-! ## One spec -/

theorem runIn_addPomFor (repository : Path) (spec : String) (s : Session) :
    (addPomFor repository spec).runIn s = match Artifact.ofSpec spec with
      | .error e => (.error (.entry e), s)
      | .ok a => match (addPom repository a).runIn s with
        | (.error f, s') => (.error f, s')
        | (.ok written, s') =>
          (.ok (), { s' with out := s'.out ++ [Turn.line repository (a, written)] }) := by
  rw [addPomFor, Work.runIn_bind, Work.runIn_ofExcept]
  cases Artifact.ofSpec spec with
  | error e => rfl
  | ok a =>
    simp only [mapError_ok, Work.runIn_bind]
    rcases (addPom repository a).runIn s with ⟨_ | _ | _, s'⟩ <;> rfl

/-- Ends that come to the same exit status. -/
inductive EndsAlike : Except Failure Unit → Except Failure Unit → Prop
  | same (r : Except Failure Unit) : EndsAlike r r
  | told {f f' : Failure} (h : f.isReported = true) (h' : f'.isReported = true) :
    EndsAlike (.error f) (.error f')

theorem EndsAlike.exitStatus_eq {work : Work Unit}
    (h : EndsAlike (work.runIn s).1 (work.runIn t).1) :
    ((exitStatus work).runIn t).1 = ((exitStatus work).runIn s).1 := by
  rw [runIn_exitStatus, runIn_exitStatus]
  generalize work.runIn s = run at h ⊢
  generalize work.runIn t = run' at h ⊢
  obtain ⟨r, s₁⟩ := run
  obtain ⟨r', t₁⟩ := run'
  cases h with
  | same =>
    cases r with
    | error f =>
      simp only
      split <;> rfl
    | ok _ => rfl
  | told h h' => simp only [h, h', if_true]

/-- A spec is malformed, it has its turn, or a file operation fails. What is there stays there
    in any case, and when it is tried again it comes to the same and changes nothing. -/
theorem addPomFor_cases (hd : s.workspace.Descends repository)
    (hplaceable : ∀ a, Artifact.ofSpec spec = .ok a → Placeable a) :
    (∃ e, Artifact.ofSpec spec = .error e ∧
        (addPomFor repository spec).runIn s = (.error (.entry e), s)) ∨
      (∃ turn s', Artifact.ofSpec spec = .ok turn.1 ∧
        (addPomFor repository spec).runIn s = (.ok (), s') ∧
        Taken repository s.workspace turn s'.workspace ∧
        s'.out = s.out ++ [turn.line repository] ∧
        ∀ t : Session, Extends s'.workspace t.workspace → ∃ t',
          (addPomFor repository spec).runIn t = (.ok (), t') ∧ t'.workspace = t.workspace) ∨
      ∃ a e s', Artifact.ofSpec spec = .ok a ∧
        (addPomFor repository spec).runIn s = (.error (.file e), s') ∧
        Extends s.workspace s'.workspace ∧
        ∀ t : Session, t.workspace = s'.workspace → ∃ r,
          (addPomFor repository spec).runIn t = (r, t) ∧ EndsAlike (.error (.file e)) r := by
  cases hspec : Artifact.ofSpec spec with
  | error e => exact .inl ⟨e, rfl, by rw [runIn_addPomFor, hspec]⟩
  | ok a =>
    have ha := hplaceable a hspec
    have hrunFor (t : Session) : (addPomFor repository spec).runIn t =
        match (addPom repository a).runIn t with
        | (.error f, t') => (.error f, t')
        | (.ok written, t') =>
          (.ok (), { t' with out := t'.out ++ [Turn.line repository (a, written)] }) := by
      rw [runIn_addPomFor, hspec]
    have hagain {w : Workspace} (h : w.pathExists (pomPath repository a) = .ok true) (t : Session)
        (ht : Extends w t.workspace) : ∃ t', (addPomFor repository spec).runIn t = (.ok (), t') ∧
          t'.workspace = t.workspace := by
      have hfound : (addPom repository a).runIn t = (.ok false, t) := by
        rw [Pom.runIn_addPom, ht.pathExists h]
      rw [hrunFor, hfound]
      exact ⟨_, rfl, rfl⟩
    rcases Pom.addPom_cases hd ha with
      ⟨hfound, hrun⟩ | ⟨hexists, w', hadds, hfound, hrun⟩ | ⟨e, w', hextends, hrun⟩
    · rw [hrunFor, hrun]
      exact .inr (.inl ⟨(a, false), _, rfl, rfl, .found hfound, rfl, hagain hfound⟩)
    · rw [hrunFor, hrun]
      exact .inr (.inl ⟨(a, true), _, rfl, rfl, .written hexists hadds, rfl, hagain hfound⟩)
    · rw [hrunFor, hrun]
      refine .inr (.inr ⟨a, e, _, rfl, rfl, hextends, fun t ht => ?_⟩)
      obtain ⟨e', hfails⟩ := Pom.addPom_again hd ha hrun ht
      have hnul := (Pom.addPom_eq_nulInPath_iff ha hfails).trans
        (Pom.addPom_eq_nulInPath_iff ha hrun).symm
      rw [hrunFor, hfails]
      refine ⟨_, rfl, ?_⟩
      -- The user is told of all errors but that of a path with a NUL.
      cases e with
      | nulInPath =>
        rw [hnul.2 rfl]
        exact .same _
      | os e =>
        cases e' with
        | nulInPath => cases hnul.1 rfl
        | os e' => exact .told rfl rfl

/-! ## Several specs -/

/-- The artifacts of the specs in front of the first malformed one. -/
def leadingArtifacts : List String → List Artifact
  | [] => []
  | spec :: specs => match Artifact.ofSpec spec with
    | .ok a => a :: leadingArtifacts specs
    | .error _ => []

section Run

variable (hd : s.workspace.Descends repository)
  (hplaceable : ∀ spec ∈ specs, ∀ a, Artifact.ofSpec spec = .ok a → Placeable a)
include hd hplaceable

/-- What is there stays there, however far it goes. -/
theorem extends_forM : Extends s.workspace
    ((specs.forM (addPomFor repository)).runIn s).2.workspace := by
  induction specs generalizing s with
  | nil => exact .refl _
  | cons spec specs ih =>
    obtain ⟨hspec, hspecs⟩ := List.forall_mem_cons.1 hplaceable
    rw [Work.runIn_forM_cons]
    rcases addPomFor_cases hd hspec with
      ⟨e, -, hrun⟩ | ⟨turn, s₁, -, hrun, htaken, -⟩ | ⟨a, e, s₁, -, hrun, hextends, -⟩
    · rw [hrun]
      exact .refl _
    · rw [hrun]
      exact htaken.extends.trans (ih (htaken.extends.descends hd) hspecs)
    · rw [hrun]
      exact hextends

/-- After a run, another one comes to the same and changes nothing. -/
theorem forM_again (ht : t.workspace =
    ((specs.forM (addPomFor repository)).runIn s).2.workspace) :
    ((specs.forM (addPomFor repository)).runIn t).2.workspace = t.workspace ∧
      EndsAlike ((specs.forM (addPomFor repository)).runIn s).1
        ((specs.forM (addPomFor repository)).runIn t).1 := by
  induction specs generalizing s t with
  | nil => exact ⟨rfl, .same _⟩
  | cons spec specs ih =>
    obtain ⟨hspec, hspecs⟩ := List.forall_mem_cons.1 hplaceable
    rw [Work.runIn_forM_cons] at ht ⊢
    rw [Work.runIn_forM_cons]
    rcases addPomFor_cases hd hspec with
      ⟨e, hmalformed, hrun⟩ | ⟨turn, s₁, -, hrun, htaken, -, hagain⟩ |
        ⟨a, e, s₁, -, hrun, -, hagain⟩
    · rw [hrun, runIn_addPomFor, hmalformed]
      exact ⟨rfl, .same _⟩
    · -- What has had its turn is still found after all that comes later.
      rw [hrun] at ht ⊢
      have hd' := htaken.extends.descends hd
      obtain ⟨t₁, hfound, ht₁⟩ := hagain t (ht ▸ extends_forM hd' hspecs)
      rw [hfound, ← ht₁]
      exact ih hd' hspecs (ht₁.trans ht)
    · rw [hrun] at ht ⊢
      obtain ⟨r, hfails, halike⟩ := hagain t ht
      rw [hfails]
      cases halike with
      | same => exact ⟨rfl, .same _⟩
      | told h h' => exact ⟨rfl, .told h h'⟩

/-- Unless a file operation fails, the artifacts in front of the first malformed spec have
    their turns, and only a malformed spec ends the run. -/
theorem takenInTurn_forM (hfile : ∀ e,
    ((specs.forM (addPomFor repository)).runIn s).1 ≠ .error (.file e)) :
    (∃ turns, turns.map Prod.fst = leadingArtifacts specs ∧
      TakenInTurn repository s.workspace turns
        ((specs.forM (addPomFor repository)).runIn s).2.workspace ∧
      ((specs.forM (addPomFor repository)).runIn s).2.out =
        s.out ++ turns.map (Turn.line repository)) ∧
    (((specs.forM (addPomFor repository)).runIn s).1 = .ok () ↔
      ∀ spec ∈ specs, ∃ a, Artifact.ofSpec spec = .ok a) ∧
    ∀ f, ((specs.forM (addPomFor repository)).runIn s).1 = .error f → ∃ e, f = .entry e := by
  induction specs generalizing s with
  | nil =>
    refine ⟨⟨[], rfl, .done _, (List.append_nil _).symm⟩, iff_of_true rfl (by simp), ?_⟩
    intro f hf
    cases hf
  | cons spec specs ih =>
    obtain ⟨hspec, hspecs⟩ := List.forall_mem_cons.1 hplaceable
    rw [Work.runIn_forM_cons] at hfile ⊢
    rcases addPomFor_cases hd hspec with
      -- A spec is malformed, or its artifact has its turn, or a file operation fails.
      ⟨e, hmalformed, hrun⟩ | ⟨turn, s₁, hturn, hrun, htaken, hout, -⟩ | ⟨a, e, s₁, -, hrun, -⟩
    · rw [hrun, leadingArtifacts, hmalformed, List.forall_mem_cons, hmalformed]
      refine ⟨⟨[], rfl, .done _, (List.append_nil _).symm⟩, by simp, ?_⟩
      rintro f ⟨⟩
      exact ⟨e, rfl⟩
    · rw [hrun] at hfile ⊢
      obtain ⟨⟨turns, hturns, hrest, hout'⟩, hend⟩ :=
        ih (htaken.extends.descends hd) hspecs hfile
      refine ⟨⟨turn :: turns, ?_, .next htaken hrest, ?_⟩, ?_⟩
      · rw [leadingArtifacts, hturn, List.map_cons, hturns]
      · rw [hout', hout, List.map_cons, List.append_assoc, List.singleton_append]
      · have hwell : ∃ a, Artifact.ofSpec spec = .ok a := ⟨_, hturn⟩
        rw [List.forall_mem_cons, and_iff_right hwell]
        exact hend
    · rw [hrun] at hfile
      exact absurd rfl (hfile e)

end Run

/-! ## Runs of the program -/

/-- Settings that are there are read again as they have been. -/
theorem settingsAt_of_extends (h : Extends w w') (hexists : w.pathExists settings = .ok true) :
    settingsAt w' settings = settingsAt w settings := by
  rw [settingsAt, settingsAt, hexists, h.pathExists hexists, h.readFile hexists]

theorem runIn_perform_poms (tools : Tools) (repository : Path) (specs : List String)
    (hfields : settingsAt s.workspace settings = .ok fields) :
    (Invocation.perform tools ⟨settings, .poms specs (some repository)⟩).runIn s =
      (specs.forM (addPomFor repository)).runIn s := by
  rw [Invocation.perform, Work.runIn_bind, runIn_loadSettings, hfields]
  rfl

/-- What adding to a repository by specs comes to. -/
def added (tools : Tools) (settings repository : Path) (specs : List String) (s : Session) :
    Except Failure Nat × Session :=
  (Invocation.run tools ⟨settings, .poms specs (some repository)⟩).runIn s

theorem added_eq (tools : Tools) (repository : Path) (specs : List String)
    (hfields : settingsAt s.workspace settings = .ok fields) :
    added tools settings repository specs s =
      (exitStatus (specs.forM (addPomFor repository))).runIn s := by
  rw [added, Invocation.run, runIn_exitStatus, runIn_exitStatus,
    runIn_perform_poms tools repository specs hfields]

/-- Adding to a repository that descends from a directory that is there never touches files
    that are there. Unless a file operation fails, the artifacts in front of the first malformed
    spec have their turns, of which the output tells, and the exit status is zero if no spec is
    malformed. Another run comes to the same exit status, and adds nothing. -/
theorem poms_added_once (tools : Tools) (hexists : s.workspace.pathExists settings = .ok true)
    (hfields : settingsAt s.workspace settings = .ok fields)
    (hplaceable : ∀ spec ∈ specs, ∀ a, Artifact.ofSpec spec = .ok a → Placeable a)
    (hd : s.workspace.Descends repository) :
    let after := added tools settings repository specs s
    (∀ l bytes, s.workspace.files.get? l = some (.file bytes) →
      after.2.workspace.files.get? l = some (.file bytes)) ∧
    ((∀ e, ((Invocation.perform tools ⟨settings, .poms specs (some repository)⟩).runIn s).1 ≠
        .error (.file e)) →
      ∃ status turns, after.1 = .ok status ∧
        (status = 0 ↔ ∀ spec ∈ specs, ∃ a, Artifact.ofSpec spec = .ok a) ∧
        turns.map Prod.fst = leadingArtifacts specs ∧
        after.2.out = s.out ++ turns.map (Turn.line repository) ∧
        TakenInTurn repository s.workspace turns after.2.workspace ∧
        (∀ a, (a, true) ∈ turns →
          s.workspace.files.get? (s.workspace.place (pomPath repository a)) = none) ∧
        ∀ l bytes, after.2.workspace.files.get? l = some (.file bytes) ↔
          s.workspace.files.get? l = some (.file bytes) ∨
            ∃ a, (a, true) ∈ turns ∧ l = s.workspace.place (pomPath repository a) ∧
              bytes = (minimalPom a).toUTF8) ∧
    (added tools settings repository specs after.2).1 = after.1 ∧
    (added tools settings repository specs after.2).2.workspace = after.2.workspace := by
  intro after
  have hafter : after = (exitStatus (specs.forM (addPomFor repository))).runIn s :=
    added_eq tools repository specs hfields
  have hworkspace : after.2.workspace =
      ((specs.forM (addPomFor repository)).runIn s).2.workspace := by
    rw [hafter, workspace_exitStatus]
  have hextends : Extends s.workspace after.2.workspace := by
    rw [hworkspace]
    exact extends_forM hd hplaceable
  refine ⟨fun l bytes => hextends.kept l _, fun hfile => ?_, ?_⟩
  · rw [runIn_perform_poms tools repository specs hfields] at hfile
    obtain ⟨⟨turns, hturns, htaken, hout⟩, hok, hentry⟩ := takenInTurn_forM hd hplaceable hfile
    obtain ⟨status, hstatus, hzero⟩ := exists_exitStatus fun f hf => by
      obtain ⟨e, rfl⟩ := hentry f hf
      rfl
    rw [← hworkspace] at htaken
    rw [← hafter] at hstatus
    rw [← out_exitStatus, ← hafter] at hout
    exact ⟨status, turns, hstatus, hzero.trans hok, hturns, hout, htaken, fun a => htaken.vacant,
      htaken.file_iff⟩
  · have hfields' : settingsAt after.2.workspace settings = .ok fields := by
      rw [settingsAt_of_extends hextends hexists, hfields]
    obtain ⟨hsame, halike⟩ := forM_again hd hplaceable hworkspace
    rw [added_eq tools repository specs hfields', workspace_exitStatus, halike.exitStatus_eq,
      ← hafter]
    exact ⟨rfl, hsame⟩

/-- Whether a failure is that of a file operation. -/
def isFileFailure : Failure → Bool
  | .file _ => true
  | _ => false

instance decidableFileFailure (f : Failure) : Decidable (∃ e, f = .file e) :=
  decidable_of_iff (isFileFailure f = true) <| by cases f <;> simp [isFileFailure]

/-- A repository with a project object model that is somebody's own. -/
def repositorySample : Session where
  workspace :=
    { here := ["w"], home := []
      files := treeOf
        [(["w"], .directory),
          (["w", "build.toml"], .file .empty),
          (["w", "repo"], .directory),
          (["w", "repo", "g"], .directory),
          (["w", "repo", "g", "a"], .directory),
          (["w", "repo", "g", "a", "1"], .directory),
          (["w", "repo", "g", "a", "1", "a-1.pom"], .file "mine".toUTF8)] }

/-- The project object model that is there is kept, another one is written, and a malformed
    spec ends the run. -/
theorem poms_added_once_sample :
    let specs := ["g:a:1", "g:a:2", "g:b", "g:c:1"]
    let after := added idleTools defaultSettingsFile (.ofString "repo/../repo") specs
      repositorySample
    repositorySample.workspace.pathExists defaultSettingsFile = .ok true ∧
    (∃ fields, settingsAt repositorySample.workspace defaultSettingsFile = .ok fields) ∧
    (∀ spec ∈ specs, ∀ a, Artifact.ofSpec spec = .ok a → Placeable a) ∧
    repositorySample.workspace.Descends (.ofString "repo/../repo") ∧
    after.2.workspace.files.get? ["w", "repo", "g", "a", "1", "a-1.pom"] =
      some (.file "mine".toUTF8) ∧
    after.2.out = ["  ⏭ repo/../repo/g/a/1/a-1.pom (already exists)",
      "  ✓ repo/../repo/g/a/2/a-2.pom"] ∧
    (∃ status turns, after.1 = .ok status ∧ status ≠ 0 ∧
      turns.map Prod.fst = [⟨"g", "a", "1", "jar", none⟩, ⟨"g", "a", "2", "jar", none⟩] ∧
      TakenInTurn (.ofString "repo/../repo") repositorySample.workspace turns
        after.2.workspace) ∧
    (added idleTools defaultSettingsFile (.ofString "repo/../repo") specs after.2).1 = after.1 ∧
    (added idleTools defaultSettingsFile (.ofString "repo/../repo") specs
      after.2).2.workspace = after.2.workspace := by
  intro specs after
  have hexists : repositorySample.workspace.pathExists defaultSettingsFile = .ok true := by
    decide +kernel
  obtain ⟨fields, hfields⟩ : ∃ fields,
      settingsAt repositorySample.workspace defaultSettingsFile = .ok fields := by
    decide +kernel
  have hplaceable : ∀ spec ∈ specs, ∀ a, Artifact.ofSpec spec = .ok a → Placeable a := by
    decide +kernel
  have hdescends : repositorySample.workspace.Descends (.ofString "repo/../repo") := by
    obtain ⟨l, hl⟩ := Workspace.isDirectory_eq_true_iff.1
      (by decide +kernel : repositorySample.workspace.isDirectory (.ofString "repo/..") = .ok true)
    exact ⟨.ofString "repo/..", ["repo"], l, by decide +kernel, by decide, hl⟩
  obtain ⟨hkept, hturns, hagain, hsame⟩ :=
    poms_added_once idleTools hexists hfields hplaceable hdescends
  have hfailure : ∀ f, ((Invocation.perform idleTools ⟨defaultSettingsFile,
      .poms specs (some (.ofString "repo/../repo"))⟩).runIn repositorySample).1 = .error f →
        ¬∃ e, f = .file e := by
    decide +kernel
  obtain ⟨status, turns, hstatus, hzero, hartifacts, -, htaken, -⟩ :=
    hturns fun e he => hfailure _ he ⟨e, rfl⟩
  have hleading : leadingArtifacts specs =
      [⟨"g", "a", "1", "jar", none⟩, ⟨"g", "a", "2", "jar", none⟩] := by decide +kernel
  refine ⟨hexists, ⟨fields, hfields⟩, hplaceable, hdescends, hkept _ _ rfl, by decide +kernel,
    ⟨status, turns, hstatus, ?_, hartifacts.trans hleading, htaken⟩, hagain, hsame⟩
  rw [Ne, hzero]
  decide +kernel

/-- In a repository whose path goes up from a directory that is missing, project object models
    may be written over. -/
theorem not_forall_poms_kept :
    ¬∀ (tools : Tools) (s : Session) (settings repository : Path) (specs : List String),
      s.workspace.pathExists settings = .ok true →
      (∃ fields, settingsAt s.workspace settings = .ok fields) →
      (∀ spec ∈ specs, ∀ a, Artifact.ofSpec spec = .ok a → Placeable a) →
      ∀ l bytes, s.workspace.files.get? l = some (.file bytes) →
        (added tools settings repository specs s).2.workspace.files.get? l =
          some (.file bytes) := by
  intro h
  have hkept := h idleTools repositorySample defaultSettingsFile (.ofString "x/../repo")
    ["g:a:1"] (by decide +kernel) (by decide +kernel) (by decide +kernel)
    ["w", "repo", "g", "a", "1", "a-1.pom"] "mine".toUTF8 rfl
  obtain ⟨bytes, hread, hsize⟩ : ∃ bytes,
      (added idleTools defaultSettingsFile (.ofString "x/../repo") ["g:a:1"]
        repositorySample).2.workspace.readFile (.ofString "/w/repo/g/a/1/a-1.pom") = .ok bytes ∧
      bytes.size ≠ 4 := by
    decide +kernel
  obtain ⟨l, hinspect⟩ := Workspace.inspect_of_readFile hread
  have hplace : l = ["w", "repo", "g", "a", "1", "a-1.pom"] :=
    (Workspace.place_of_locate (Workspace.inspect_eq_ok_iff.1 hinspect).1).trans
      (by decide +kernel)
  rw [← hplace, Workspace.get?_of_inspect hinspect] at hkept
  cases hkept
  exact hsize rfl

end JavaBuild.CommandLine
