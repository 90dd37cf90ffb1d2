import JavaBuild.Proofs.CommandLine.Cleaning
import JavaBuild.Proofs.Conflict
import JavaBuild.Proofs.Work

/-!
# Showing dependency lists

A dependency list is accepted if it is a text in UTF-8 and all words in front of the remarks
are specs (`Accepts`). Then there is an entry for each line with specs (`TellsEntry`), which
is read from it, and can always be shown. Whatever is in the file, showing its conflicts or
its tree is all or nothing (`shown_all_or_nothing`): either all lines are printed, or an
error is told and nothing printed.
-/

namespace JavaBuild

variable {specs : List String} {text : String} {bytes : ByteArray} {s : Session}

namespace DependencyList

open List (Forall₂)

/-! ## Accepted texts -/

/-- The specs of the lines that have one. -/
def specLines (text : String) : List (List String) :=
  ((Text.lines text.toList).map specsOf).filter (· ≠ [])

/-- All specs of a text are well formed. -/
def Accepts (text : String) : Prop :=
  ∀ line ∈ Text.lines text.toList, ∀ spec ∈ specsOf line, (Artifact.ofSpec? spec).isSome

instance (text : String) : Decidable (Accepts text) :=
  inferInstanceAs (Decidable
    (∀ line ∈ Text.lines text.toList, ∀ spec ∈ specsOf line, (Artifact.ofSpec? spec).isSome))

/-- A spec tells of an artifact. -/
def TellsArtifact (spec : String) (a : Artifact) : Prop := Artifact.ofSpec? spec = some a

/-- A spec alone on a line tells of a bare artifact, and several tell of a group. -/
inductive TellsEntry : List String → ValidEntry → Prop
  | bare {spec : String} {a : Artifact} (h : TellsArtifact spec a) : TellsEntry [spec] (.bare a)
  | group {spec next : String} {specs : List String} {a : Artifact} {as : List Artifact}
    (h : TellsArtifact spec a) (hs : Forall₂ TellsArtifact (next :: specs) as) :
    TellsEntry (spec :: next :: specs) (.group a as)

theorem TellsArtifact.ofSpec_eq {spec : String} {a : Artifact} (h : TellsArtifact spec a) :
    Artifact.ofSpec spec = .ok a := by
  rw [Artifact.ofSpec, h]

/-- Specs are well formed if they tell of artifacts. -/
theorem exists_tellsArtifacts (h : ∀ spec ∈ specs, (Artifact.ofSpec? spec).isSome) :
    ∃ as, Forall₂ TellsArtifact specs as := by
  induction specs with
  | nil => exact ⟨[], .nil⟩
  | cons spec specs ih =>
    obtain ⟨hspec, hspecs⟩ := List.forall_mem_cons.1 h
    obtain ⟨a, ha⟩ := Option.isSome_iff_exists.1 hspec
    obtain ⟨as, has⟩ := ih hspecs
    exact ⟨a :: as, .cons ha has⟩

/-! ## Reading lines -/

variable {spec next : String} {lines : List (List Char)}

/-- Several specs are read one by one. -/
theorem entryOf_several : entryOf (spec :: next :: specs) =
    ((spec :: next :: specs).mapM Artifact.ofSpec).map
      fun as => some (.providers (as.map .artifact)) := by
  have hspecs : ((spec :: next :: specs).map Value.text).mapM Value.toArtifact =
      (spec :: next :: specs).mapM Artifact.ofSpec := List.mapM_map
  have hentry : entryOf (spec :: next :: specs) =
      (Value.toProviders ((spec :: next :: specs).map Value.text)).map some := rfl
  rw [hentry, Value.toProviders, hspecs, if_neg (by simp)]
  cases (spec :: next :: specs).mapM Artifact.ofSpec <;> rfl

/-- Specs that tell of an entry are read as this entry. -/
theorem TellsEntry.entryOf_eq {e : ValidEntry} (h : TellsEntry specs e) :
    entryOf specs = .ok (some e.value) := by
  cases h with
  | bare h =>
    rw [entryOf, h.ofSpec_eq]
    rfl
  | group h hs =>
    rw [entryOf_several, mapM_eq_ok_iff.2 ((Forall₂.cons h hs).imp fun _ _ => (·.ofSpec_eq))]
    rfl

theorem exists_tellsEntry (hne : specs ≠ [])
    (h : ∀ spec ∈ specs, (Artifact.ofSpec? spec).isSome) : ∃ e, TellsEntry specs e := by
  obtain ⟨as, has⟩ := exists_tellsArtifacts h
  cases has with
  | nil => exact absurd rfl hne
  | cons hspec hspecs =>
    cases hspecs with
    | nil => exact ⟨_, .bare hspec⟩
    | cons hnext hspecs => exact ⟨_, .group hspec (.cons hnext hspecs)⟩

/-- Specs of which one is malformed are read as no entry. -/
theorem entryOf_eq_error (h : ∃ spec ∈ specs, Artifact.ofSpec? spec = none) :
    ∃ e, entryOf specs = .error e := by
  obtain ⟨malformed, hmem, hmalformed⟩ := h
  match specs with
  | [] => exact absurd hmem List.not_mem_nil
  | [spec] =>
    rw [← List.mem_singleton.1 hmem, entryOf, Artifact.ofSpec, hmalformed]
    exact ⟨_, rfl⟩
  | spec :: next :: specs =>
    rw [entryOf_several]
    cases hread : (spec :: next :: specs).mapM Artifact.ofSpec with
    | error e => exact ⟨e, rfl⟩
    | ok as =>
      obtain ⟨a, ha⟩ := (mapM_eq_ok hread).1 malformed hmem
      rw [Artifact.ofSpec, hmalformed] at ha
      cases ha

/-- Lines of well-formed specs are read as the entries that they tell of. -/
theorem ofLines_eq_ok (h : ∀ line ∈ lines, ∀ spec ∈ specsOf line, (Artifact.ofSpec? spec).isSome) :
    ∃ es, Forall₂ TellsEntry ((lines.map specsOf).filter (· ≠ [])) es ∧
      ∀ n, ofLines n lines = .ok (es.map ValidEntry.value) := by
  induction lines with
  | nil => exact ⟨[], .nil, fun _ => rfl⟩
  | cons line lines ih =>
    obtain ⟨hline, hlines⟩ := List.forall_mem_cons.1 h
    obtain ⟨es, hes, hread⟩ := ih hlines
    by_cases hne : specsOf line = []
    · refine ⟨es, ?_, fun n => ?_⟩
      · rwa [List.map_cons, List.filter_cons_of_neg (by simpa using hne)]
      · rw [ofLines, hne, entryOf]
        simp only [hread (n + 1)]
        rfl
    · obtain ⟨e, he⟩ := exists_tellsEntry hne hline
      refine ⟨e :: es, ?_, fun n => ?_⟩
      · rw [List.map_cons, List.filter_cons_of_pos (by simpa using hne)]
        exact .cons he hes
      · rw [ofLines, he.entryOf_eq]
        simp only [hread (n + 1)]
        rfl

/-- Lines of which one has a malformed spec are not read. -/
theorem ofLines_eq_error (n : Nat)
    (h : ∃ line ∈ lines, ∃ spec ∈ specsOf line, Artifact.ofSpec? spec = none) :
    ∃ e, ofLines n lines = .error e := by
  induction lines generalizing n with
  | nil =>
    obtain ⟨line, hline, -⟩ := h
    exact absurd hline List.not_mem_nil
  | cons line lines ih =>
    rw [ofLines]
    cases hread : entryOf (specsOf line) with
    | error e => exact ⟨_, rfl⟩
    | ok entry =>
      -- The line has been read, so the malformed spec is on one of the others.
      obtain ⟨other, hmem, hmalformed⟩ := h
      rcases List.mem_cons.1 hmem with rfl | hmem
      · obtain ⟨e, he⟩ := entryOf_eq_error hmalformed
        rw [hread] at he
        cases he
      · obtain ⟨e, he⟩ := ih (n + 1) ⟨other, hmem, hmalformed⟩
        exact ⟨e, by simp only [he]; rfl⟩

end DependencyList

/-! ## Reading files -/

open DependencyList (Accepts TellsEntry specLines)

theorem Text.decodeUtf8_eq_ok (h : Text.decodeUtf8 bytes = .ok text) : bytes = text.toUTF8 := by
  rw [Text.decodeUtf8, String.fromUTF8?] at h
  by_cases hvalid : bytes.IsValidUTF8
  · simp only [hvalid, dite_true, Except.ok.injEq] at h
    rw [← h]
    rfl
  · simp only [hvalid, dite_false] at h
    cases h

/-- The bytes of an accepted text are read as the entries that its lines tell of. -/
theorem entriesOfList_of_accepts (file : Path) (h : Accepts text) :
    ∃ es, List.Forall₂ TellsEntry (specLines text) es ∧
      entriesOfList file text.toUTF8 = .ok (es.map ValidEntry.value) := by
  obtain ⟨es, hes, hread⟩ := DependencyList.ofLines_eq_ok h
  refine ⟨es, hes, ?_⟩
  rw [entriesOfList, Text.decodeUtf8_toUTF8]
  simp only [DependencyList.parse, hread, mapError_ok]

/-- Other bytes are not read, and the failure is told. -/
theorem entriesOfList_of_not_accepts (file : Path)
    (h : ∀ text : String, bytes = text.toUTF8 → ¬Accepts text) :
    ∃ f, entriesOfList file bytes = .error f ∧ f.isReported := by
  rw [entriesOfList]
  cases hdecode : Text.decodeUtf8 bytes with
  | error e => exact ⟨_, rfl, rfl⟩
  | ok text =>
    have hmalformed := h text (Text.decodeUtf8_eq_ok hdecode)
    simp only [Accepts, not_forall, Option.isSome_iff_ne_none, not_not] at hmalformed
    obtain ⟨line, hline, spec, hspec, hnone⟩ := hmalformed
    obtain ⟨⟨n, e⟩, he⟩ := DependencyList.ofLines_eq_error 1 ⟨line, hline, spec, hspec, hnone⟩
    refine ⟨.listLine file n e, ?_, rfl⟩
    simp only [DependencyList.parse, he, mapError_error]

/-! ## Showing entries -/

namespace CommandLine

open Checkstyle (Tools)

/-- What is shown of entries. -/
inductive Showing
  | conflicts
  | tree
  deriving DecidableEq

namespace Showing

/-- The task of showing the entries of a file. -/
def request (file : Path) (selection : Pom.Selection) : Showing → Request
  | conflicts => .conflicts file selection
  | tree => .tree file selection

/-- The lines that show entries. -/
def lines (entries : List Value) : Showing → Except EntryError (List String)
  | conflicts => (analyze entries).map reportLines
  | tree => treeLines entries

variable {showing : Showing}

/-- Valid entries can be shown. -/
theorem exists_lines (showing : Showing) (es : List ValidEntry) :
    ∃ lines, showing.lines (es.map ValidEntry.value) = .ok lines := by
  cases showing with
  | conflicts =>
    rw [lines, analyze, ValidEntry.artifactsOf_value]
    exact ⟨_, rfl⟩
  | tree =>
    have hmembers : ∀ e ∈ es.map ValidEntry.value,
        ∃ tree, e.members.map memberLines = .ok tree := by
      rw [List.forall_mem_map]
      intro e _
      rw [e.members_value]
      exact ⟨_, rfl⟩
    obtain ⟨trees, htrees⟩ := exists_mapM_eq_ok hmembers
    rw [lines, treeLines, htrees]
    exact ⟨_, rfl⟩

/-- The lines are printed once all of them are there. -/
theorem runIn_request {entries : List Value} {shown : List String} {file : Path}
    {selection : Pom.Selection} (tools : Tools) (fields : Toml.Fields)
    (hload : (loadEntries file selection).runIn s = (.ok entries, s))
    (hshown : showing.lines entries = .ok shown) :
    ((showing.request file selection).run tools fields).runIn s =
      (.ok (), { s with out := s.out ++ shown }) := by
  cases showing with
  | conflicts =>
    rw [lines, map_eq_ok_iff] at hshown
    obtain ⟨report, hreport, rfl⟩ := hshown
    simp only [request, Request.run, tellConflicts, Work.runIn_bind, hload, Work.runIn_ofExcept,
      hreport, mapError_ok, Work.runIn_forM_print, Work.runIn_pure]
  | tree =>
    rw [lines] at hshown
    simp only [request, Request.run, showTree, Work.runIn_bind, hload, Work.runIn_ofExcept,
      hshown, mapError_ok, Work.runIn_forM_print]

/-- Nothing is shown of a file that is not read. -/
theorem runIn_request_of_error {f : Failure} {file : Path} {selection : Pom.Selection}
    (tools : Tools) (fields : Toml.Fields)
    (hload : (loadEntries file selection).runIn s = (.error f, s)) :
    ((showing.request file selection).run tools fields).runIn s = (.error f, s) := by
  cases showing with
  | conflicts => simp only [request, Request.run, Work.runIn_bind, hload]
  | tree => simp only [request, Request.run, Work.runIn_bind, hload]

end Showing

theorem runIn_loadEntries_of_list {file : Path} (hsuffix : file.suffix ≠ projectSuffix)
    (hread : s.workspace.readFile file = .ok bytes) (selection : Pom.Selection) :
    (loadEntries file selection).runIn s = (entriesOfList file bytes, s) := by
  rw [loadEntries, if_neg hsuffix]
  simp only [loadList, Work.runIn_bind, Work.readFile, Work.runIn_inspect, hread, mapError_ok,
    Work.runIn_ofExcept]
  cases entriesOfList file bytes <;> rfl

/-- Showing a dependency list is all or nothing. If it is a text in which all specs are well
    formed, the entries that its lines tell of are read, and all lines that show them are
    printed. Else an error is told, and nothing is printed. -/
theorem shown_all_or_nothing (tools : Tools) (showing : Showing) (selection : Pom.Selection)
    {settings file : Path} {fields : Toml.Fields}
    (hsettings : settingsAt s.workspace settings = .ok fields)
    (hsuffix : file.suffix ≠ projectSuffix) (hread : s.workspace.readFile file = .ok bytes) :
    (∃ text es lines, bytes = text.toUTF8 ∧ Accepts text ∧
      List.Forall₂ TellsEntry (specLines text) es ∧
      (loadEntries file selection).runIn s = (.ok (es.map ValidEntry.value), s) ∧
      showing.lines (es.map ValidEntry.value) = .ok lines ∧
      (Invocation.run tools ⟨settings, showing.request file selection⟩).runIn s =
        (.ok 0, { s with out := s.out ++ lines })) ∨
    ((∀ text : String, bytes = text.toUTF8 → ¬Accepts text) ∧
      ∃ message, (Invocation.run tools ⟨settings, showing.request file selection⟩).runIn s =
        (.ok 1, { s with err := s.err ++ ["ERROR: " ++ message] })) := by
  have hload := runIn_loadEntries_of_list hsuffix hread selection
  rw [Invocation.run, runIn_exitStatus, Invocation.perform, Work.runIn_bind, runIn_loadSettings,
    hsettings]
  -- Nothing is printed before all lines are known, so a failure leaves no part of them.
  by_cases h : ∃ text : String, bytes = text.toUTF8 ∧ Accepts text
  · left
    obtain ⟨text, rfl, haccepts⟩ := h
    obtain ⟨es, hes, hentries⟩ := entriesOfList_of_accepts file haccepts
    obtain ⟨lines, hlines⟩ := showing.exists_lines es
    rw [hentries] at hload
    refine ⟨text, es, lines, rfl, haccepts, hes, hload, hlines, ?_⟩
    simp only [Showing.runIn_request tools fields hload hlines]
  · right
    have hnone : ∀ text : String, bytes = text.toUTF8 → ¬Accepts text :=
      fun text htext haccepts => h ⟨text, htext, haccepts⟩
    obtain ⟨f, hf, hreported⟩ := entriesOfList_of_not_accepts file hnone
    rw [hf] at hload
    refine ⟨hnone, f.message, ?_⟩
    simp only [Showing.runIn_request_of_error tools fields hload]
    rw [if_pos hreported]
    rfl

/-- A list of an artifact with a remark, and of a group. -/
def sampleList : String := "g:a:1 # none\n\n\tg:a:2 h:b:jar:3\n"

/-- The list in a file, without settings. -/
def sampleListSession : Session := ⟨.holding [("deps.txt", sampleList)], [], [], []⟩

theorem shown_sampleList :
    settingsAt sampleListSession.workspace defaultSettingsFile = .ok [] ∧
    (Path.ofString "deps.txt").suffix ≠ projectSuffix ∧
    sampleListSession.workspace.readFile (.ofString "deps.txt") = .ok sampleList.toUTF8 ∧
    Accepts sampleList ∧
    ((Invocation.run idleTools
      ⟨defaultSettingsFile, Showing.tree.request (.ofString "deps.txt") {}⟩).runIn
        sampleListSession).1 = .ok 0 := by
  have hsettings : settingsAt sampleListSession.workspace defaultSettingsFile = .ok [] := rfl
  have hsuffix : (Path.ofString "deps.txt").suffix ≠ projectSuffix := by decide
  have hread : sampleListSession.workspace.readFile (.ofString "deps.txt") =
      .ok sampleList.toUTF8 := rfl
  have haccepts : Accepts sampleList := by decide +kernel
  refine ⟨hsettings, hsuffix, hread, haccepts, ?_⟩
  rcases shown_all_or_nothing idleTools .tree {} hsettings hsuffix hread with
    ⟨text, es, lines, -, -, -, -, -, hrun⟩ | ⟨hnone, -⟩
  · rw [hrun]
  · exact absurd haccepts (hnone sampleList rfl)

end CommandLine

end JavaBuild
