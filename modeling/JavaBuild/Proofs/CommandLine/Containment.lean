import JavaBuild.Proofs.Checkstyle.OwnFiles
import JavaBuild.Proofs.CommandLine.Adding
import JavaBuild.Proofs.Pom.Containment

/-!
# Files outside of a repository

Adding to a repository by specs writes no files but those at the places of the project object
models (`keepsFiles_forM`). So for artifacts whose coordinates do not lead out of it, all files
outside of the repository stay as they are, and no file is added there, whichever repository it
is (`poms_stay_inside`). A spec with an absolute path or too many `..` in it is accepted, too,
and its project object model is written outside (`not_forall_poms_inside`).
-/

namespace JavaBuild

open Checkstyle (Tools)
open Pom (Contained addPom pomPath)
open Workspace (Inside KeepsFiles)

variable {P : Location → Prop} {w w' : Workspace}

theorem Workspace.Grows.keepsFiles {Q : Location → Prop} (h : Grows Q w w') :
    KeepsFiles P w w' :=
  ⟨h.frame, fun _ _ _ => h.file_iff⟩

/-- Adding to a repository writes no other file than the project object model. -/
theorem Pom.keepsFiles_addPom (repository : Path) (a : Artifact) (s : Session) :
    KeepsFiles (· = s.workspace.place (pomPath repository a)) s.workspace
      ((addPom repository a).runIn s).2.workspace := by
  have hgrows := s.workspace.makeDirectories_grows (pomPath repository a).parent
  rw [runIn_addPom]
  split
  · exact .refl _ _
  · exact .refl _ _
  · -- Directories are made first, which touches no file, also if not all of them are made.
    split
    · rename_i hmade
      rw [hmade] at hgrows
      exact hgrows.keepsFiles
    · rename_i made hmade
      rw [hmade] at hgrows
      split
      · exact hgrows.keepsFiles
      · rename_i hwrite
        exact hgrows.keepsFiles.trans
          (Workspace.keepsFiles_of_writeFile hwrite (hgrows.place _))

namespace CommandLine

variable {repository settings : Path} {spec : String} {specs : List String} {a : Artifact}
  {s : Session} {l : Location} {given : Option Path}

/-- The places of the project object models that specs ask for. -/
def IsAsked (w : Workspace) (repository : Path) (specs : List String) (l : Location) : Prop :=
  ∃ spec ∈ specs, ∃ a, Artifact.ofSpec spec = .ok a ∧ l = w.place (pomPath repository a)

theorem keepsFiles_addPomFor (repository : Path) (spec : String) (s : Session) :
    KeepsFiles (IsAsked s.workspace repository [spec]) s.workspace
      ((addPomFor repository spec).runIn s).2.workspace := by
  rw [runIn_addPomFor]
  split
  · exact .refl _ _
  · rename_i a hspec
    have hkeeps := (Pom.keepsFiles_addPom repository a s).mono
      (Q := IsAsked s.workspace repository [spec])
      fun l hl => ⟨spec, List.mem_singleton_self spec, a, hspec, hl⟩
    split
    all_goals
      rename_i hrun
      rw [hrun] at hkeeps
      exact hkeeps

/-- However far it goes, adding by specs writes no other files than those they ask for. -/
theorem keepsFiles_forM (repository : Path) (specs : List String) (s : Session) :
    KeepsFiles (IsAsked s.workspace repository specs) s.workspace
      ((specs.forM (addPomFor repository)).runIn s).2.workspace := by
  -- The places are those of the first session: no step leads to another directory.
  induction specs generalizing s with
  | nil => exact .refl _ _
  | cons spec specs ih =>
    have hfirst := (keepsFiles_addPomFor repository spec s).mono
      (Q := IsAsked s.workspace repository (spec :: specs))
      fun l ⟨_, hmem, h⟩ => ⟨spec, List.mem_cons_self, List.mem_singleton.1 hmem ▸ h⟩
    rw [Work.runIn_forM_cons]
    rcases hrun : (addPomFor repository spec).runIn s with ⟨f | ⟨⟩, s₁⟩
    · rw [hrun] at hfirst
      exact hfirst
    · rw [hrun] at hfirst
      refine hfirst.trans ((ih s₁).mono fun l ⟨spec', hmem, a, ha, hl⟩ => ?_)
      exact ⟨spec', List.mem_cons_of_mem _ hmem, a, ha, hl.trans (hfirst.place _)⟩

/-! ## Runs of the program -/

/-- The repository of a run: the one that is given, or that of the settings. -/
inductive UsesRepository (w : Workspace) (settings : Path) : Option Path → Path → Prop
  | given (repository : Path) : UsesRepository w settings (some repository) repository
  | configured {fields : Toml.Fields} {repository : Path}
    (hfields : settingsAt w settings = .ok fields)
    (h : repositoryIn fields w = .ok repository) : UsesRepository w settings none repository

/-- Unless a run fails before it comes to the specs, it has a repository to add to. -/
theorem runIn_perform_poms_cases (tools : Tools) (settings : Path) (given : Option Path)
    (specs : List String) (s : Session) :
    (∃ f, (Invocation.perform tools ⟨settings, .poms specs given⟩).runIn s = (.error f, s)) ∨
      ∃ repository, UsesRepository s.workspace settings given repository ∧
        (Invocation.perform tools ⟨settings, .poms specs given⟩).runIn s =
          (specs.forM (addPomFor repository)).runIn s := by
  rw [Invocation.perform, Work.runIn_bind, runIn_loadSettings]
  cases hfields : settingsAt s.workspace settings with
  | error f => exact .inl ⟨f, rfl⟩
  | ok fields =>
    cases given with
    | some repository => exact .inr ⟨repository, .given repository, rfl⟩
    | none =>
      simp only [Request.run, addPoms, Work.runIn_bind, Work.runIn_get, Work.runIn_ofExcept]
      cases hrepository : repositoryIn fields s.workspace with
      | error f => exact .inl ⟨f, rfl⟩
      | ok repository => exact .inr ⟨repository, .configured hfields hrepository, rfl⟩

/-- Coordinates lead to a place inside of every repository just if they do not lead out of it by
    themselves. When those of all specs are such, adding them to the repository of a run neither
    writes nor touches a file outside of it, however far the run goes. -/
theorem poms_stay_inside (specs : List String) :
    ((∀ spec ∈ specs, ∀ a, Artifact.ofSpec spec = .ok a → Contained a) ↔
      ∀ spec ∈ specs, ∀ a, Artifact.ofSpec spec = .ok a → ∀ (w : Workspace) (repository : Path),
        Inside w repository (w.place (pomPath repository a))) ∧
    ((∀ spec ∈ specs, ∀ a, Artifact.ofSpec spec = .ok a → Contained a) →
      ∀ (tools : Tools) (settings : Path) (given : Option Path) (s : Session) (l : Location),
        (∀ repository, UsesRepository s.workspace settings given repository →
          ¬Inside s.workspace repository l) →
        ∀ bytes, ((Invocation.run tools ⟨settings, .poms specs given⟩).runIn
            s).2.workspace.files.get? l = some (.file bytes) ↔
          s.workspace.files.get? l = some (.file bytes)) := by
  refine ⟨?_, fun hcontained tools settings given s l hl bytes => ?_⟩
  · simp only [Pom.contained_iff_inside]
  · rw [Invocation.run, workspace_exitStatus]
    rcases runIn_perform_poms_cases tools settings given specs s with
      ⟨f, hrun⟩ | ⟨repository, huses, hrun⟩
    · rw [hrun]
    · rw [hrun]
      refine (keepsFiles_forM repository specs s).file_iff l bytes ?_
      rintro ⟨spec, hmem, a, ha, rfl⟩
      exact hl repository huses ((hcontained spec hmem a ha).inside s.workspace repository)

/-- A `..` that only takes back the group does not lead to the settings file. -/
theorem poms_stay_inside_sample :
    (∀ a, Artifact.ofSpec "g:..:1" = .ok a → Contained a) ∧
    ¬Inside repositorySample.workspace (.ofString "repo") ["w", "build.toml"] ∧
    (added idleTools defaultSettingsFile (.ofString "repo") ["g:..:1"]
      repositorySample).2.workspace.files.get? ["w", "build.toml"] = some (.file .empty) := by
  have hcontained : ∀ spec ∈ ["g:..:1"], ∀ a, Artifact.ofSpec spec = .ok a → Contained a := by
    decide +kernel
  have hbeside : ¬Inside repositorySample.workspace (.ofString "repo") ["w", "build.toml"] := by
    decide +kernel
  refine ⟨hcontained _ List.mem_cons_self, hbeside, ?_⟩
  refine ((poms_stay_inside _).2 hcontained idleTools defaultSettingsFile
    (some (.ofString "repo")) repositorySample _ (fun repository huses => ?_) _).2 rfl
  cases huses
  exact hbeside

/-- With names that go up among the coordinates, a project object model is written next to the
    repository. -/
theorem not_forall_poms_inside :
    ¬∀ (spec : String) (a : Artifact), Artifact.ofSpec spec = .ok a →
      ∀ (tools : Tools) (settings repository : Path) (s : Session),
        Inside s.workspace repository (s.workspace.place (pomPath repository a)) ∧
        ∀ l bytes, ¬Inside s.workspace repository l →
          (added tools settings repository [spec] s).2.workspace.files.get? l =
            some (.file bytes) → s.workspace.files.get? l = some (.file bytes) := by
  intro h
  obtain ⟨a, hspec⟩ : ∃ a, Artifact.ofSpec "g:..:.." = .ok a := by decide +kernel
  have hbeside : ¬Inside repositorySample.workspace (.ofString "repo") ["w", "..-...pom"] := by
    decide +kernel
  obtain ⟨bytes, hread⟩ : ∃ bytes,
      (added idleTools defaultSettingsFile (.ofString "repo") ["g:..:.."]
        repositorySample).2.workspace.readFile (.ofString "/w/..-...pom") = .ok bytes := by
    decide +kernel
  obtain ⟨l, hinspect⟩ := Workspace.inspect_of_readFile hread
  have hplace : l = ["w", "..-...pom"] :=
    (Workspace.place_of_locate (Workspace.inspect_eq_ok_iff.1 hinspect).1).trans
      (by decide +kernel)
  have hwritten := Workspace.get?_of_inspect hinspect
  rw [hplace] at hwritten
  have hbefore := (h _ _ hspec idleTools defaultSettingsFile (.ofString "repo")
    repositorySample).2 _ bytes hbeside hwritten
  cases hbefore

end CommandLine

end JavaBuild
