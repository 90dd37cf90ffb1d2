import JavaBuild.Proofs.Checkstyle.Run
import JavaBuild.Proofs.Xml.Document

/-!
# The report that a run leaves

A run that gives a result leaves a report, and reading the report gives the same
result (`createReport_loadReport`). Where no source is chosen, the report is the one
of nothing: a document with the version of Checkstyle, in which special characters
are escaped, and without files (`ofBytes_emptyReport`).
-/

namespace JavaBuild.Checkstyle

open Xml (WrittenAttribute)

/-! ## The report of nothing -/

/-- The root of the report of nothing tells the version. -/
def versionAttribute (version : String) (h : ∀ c ∈ version.toList, Xml.isXmlChar c) :
    WrittenAttribute :=
  .escaped "version".toList version.toList ⟨rfl, List.all_eq_true.1 rfl⟩ (by decide) h

variable {version : String}

/-- The report of nothing is a declaration, a start tag with the version, and an end
    tag on another line. -/
theorem toList_emptyReport (h : ∀ c ∈ version.toList, Xml.isXmlChar c) :
    (emptyReport version).toList = Xml.declaration ++ '\n' :: '<' ::
      (Xml.tagChars "checkstyle".toList [versionAttribute version h] false ++
        "\n</checkstyle>\n".toList) := by
  have hreport : emptyReport version = "<?xml version=\"1.0\" encoding=\"UTF-8\"?>\n" ++
      ("<checkstyle version=\"" ++ escape version ++ "\">\n</checkstyle>\n") := rfl
  have hescape : (escape version).toList = version.toList.flatMap escapeChar :=
    String.toList_ofList
  have hfirst : "<?xml version=\"1.0\" encoding=\"UTF-8\"?>\n".toList =
      Xml.declaration ++ ['\n'] := rfl
  have hopen : "<checkstyle version=\"".toList =
      '<' :: ("checkstyle".toList ++ ' ' :: ("version".toList ++ ['=', '"'])) := rfl
  have hclose : "\">\n</checkstyle>\n".toList = '"' :: '>' :: "\n</checkstyle>\n".toList := rfl
  have hchars : Xml.attributeChars [versionAttribute version h] =
      ' ' :: ("version".toList ++ '=' :: '"' :: version.toList.flatMap escapeChar ++ ['"']) := by
    rw [Xml.attributeChars, List.flatMap_singleton]
    rfl
  rw [hreport, String.toList_append, String.toList_append, String.toList_append, hfirst, hopen,
    hescape, hclose, Xml.tagChars, hchars]
  simp only [List.append_assoc, List.cons_append, List.nil_append, Xml.tagEnd]
  rfl

/-- There is nothing in the report of nothing. -/
theorem ofBytes_emptyReport (data : Path) (h : ∀ c ∈ version.toList, Xml.isXmlChar c) :
    Result.ofBytes data (emptyReport version).toUTF8 = .ok {} := by
  have hname : Xml.PlainName "checkstyle".toList := ⟨rfl, List.all_eq_true.1 rfl⟩
  have hblank : ∀ c ∈ ['\n'], Xml.isXmlSpace c := List.all_eq_true.1 rfl
  have hcontent : Xml.readRootContent {} .complete .initial "\n</checkstyle>\n".toList =
      .ok ⟨[.text (String.ofList ['\n'])], .endTag "checkstyle".toList 12, ['\n']⟩ := rfl
  have hbody : Xml.readBody .complete false (['\n'] ++ '<' ::
      (Xml.tagChars "checkstyle".toList [versionAttribute version h] false ++ _)) = _ :=
    Xml.readBody_of_tag hname
      (Xml.readRoot_of_written hname (by simp) (List.forall_mem_nil _) hcontent) hblank hblank false
  rw [List.singleton_append] at hbody
  rw [Result.ofBytes, Xml.readDocument_declared (toList_emptyReport h), hbody]
  rfl

namespace Config

variable {c : Config} {runner : Runner} {s s' : Session} {r : Result}

/-- The report that a run leaves has its result. -/
theorem createReport_readFile (hv : ∀ ch ∈ c.version.toList, Xml.isXmlChar ch)
    (h : (c.createReport runner).runIn s = (.ok r, s')) :
    ∃ bytes, s'.workspace.readFile c.dataFile = .ok bytes ∧
      Result.ofBytes c.dataFile bytes = .ok r := by
  rcases createReport_ending c runner s with ⟨e, he⟩ | ⟨s₀, -, -, hend⟩
  · rw [h] at he
    cases he
  · rw [h] at hend
    cases hend with
    | reported hr =>
      obtain ⟨l, hl⟩ := Workspace.inspect_writeFile hr.written
      exact ⟨_, Workspace.readFile_of_inspect hl, hr.result.symm⟩
    | unread _ _ _ result => cases result
    | nothing written =>
      obtain ⟨l, hl⟩ := Workspace.inspect_writeFile written
      exact ⟨_, Workspace.readFile_of_inspect hl, ofBytes_emptyReport _ hv⟩

/-- A page is made of the report as of the result that is in it. -/
theorem createPage_of_readFile {bytes : ByteArray} (engine : Engine) (hstyle : c.style = none)
    (hread : s.workspace.readFile c.dataFile = .ok bytes)
    (hr : Result.ofBytes c.dataFile bytes = .ok r) :
    (c.createPage engine none).runIn s = (c.createPage engine (some r)).runIn s := by
  simp only [createPage_eq, Work.runIn_bind, Work.runIn_inspect]
  cases c.page s.workspace with
  | error e => rfl
  | ok page =>
    simp only [mapError_ok, Work.runIn_print]
    -- A line has been printed, but the report is still the same.
    have hcontent : ∀ out, (c.pageContent engine none).runIn { s with out } =
        (c.pageContent engine (some r)).runIn { s with out } := by
      intro out
      rw [pageContent.eq_def, pageContent.eq_def, hstyle]
      simp only [Work.runIn_bind]
      rw [loadReport_of_readFile (s := { s with out }) hread, hr]
    rw [hcontent]

/-- What a run gives is what is on disk: the report is there, and reading it gives the
    same result, as does a page without a stylesheet. -/
theorem createReport_loadReport (hv : ∀ ch ∈ c.version.toList, Xml.isXmlChar ch)
    (h : (c.createReport runner).runIn s = (.ok r, s')) :
    (∃ bytes, s'.workspace.find? c.dataFile = .ok (some (.file bytes))) ∧
      (loadReport c.dataFile).runIn s' = (.ok r, s') ∧
      (c.style = none → ∀ engine : Engine,
        (c.createPage engine none).runIn s' = (c.createPage engine (some r)).runIn s') := by
  obtain ⟨bytes, hread, hr⟩ := createReport_readFile hv h
  obtain ⟨l, hl⟩ := Workspace.inspect_of_readFile hread
  refine ⟨⟨bytes, Workspace.find?_of_inspect hl⟩, ?_, fun hstyle engine => ?_⟩
  · rw [loadReport_of_readFile hread, hr]
  · exact createPage_of_readFile engine hstyle hread hr

/-- A version with special characters does not keep the report of nothing from being
    read. -/
theorem createReport_loadReport_nothing : ∃ s' : Session,
    ((∀ ch ∈ ({ version := "<\"5&\n" } : Config).version.toList, Xml.isXmlChar ch) ∧
      (({ version := "<\"5&\n" } : Config).createReport fun _ => .ended none 0 "").runIn
        ⟨.holding [], [], [], []⟩ = (.ok {}, s')) ∧
    (loadReport ({ version := "<\"5&\n" } : Config).dataFile).runIn s' = (.ok {}, s') := by
  generalize hrun : (({ version := "<\"5&\n" } : Config).createReport fun _ =>
    .ended none 0 "").runIn ⟨.holding [], [], [], []⟩ = run
  have hok : run.1.toOption = some {} := by
    rw [← hrun]
    decide +kernel
  obtain ⟨r | r, s'⟩ := run
  · cases hok
  · obtain rfl := Option.some.inj hok
    have hversion : ∀ ch ∈ ({ version := "<\"5&\n" } : Config).version.toList,
        Xml.isXmlChar ch := List.all_eq_true.1 rfl
    exact ⟨s', ⟨hversion, rfl⟩, (createReport_loadReport hversion hrun).2.1⟩

end Config

end JavaBuild.Checkstyle
