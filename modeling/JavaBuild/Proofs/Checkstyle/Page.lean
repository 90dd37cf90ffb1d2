import JavaBuild.Proofs.Checkstyle.OwnFiles
import JavaBuild.Proofs.Checkstyle.Showable
import JavaBuild.Proofs.Checkstyle.Surrogate
import JavaBuild.Proofs.FileTree.NewFile

/-!
# Making a page at once or not at all

A page is written once its content is complete, which touches no files if the engine for the
stylesheet only reads (`Config.pageContent_eq_ok_iff`). So when making a page fails, an earlier
one stays as it is; all files do, and no directory is made unless the path of the page is too long
for the system (`Config.createEscapedPage_atomic`). When it succeeds, the page shows what it was
to show, and nothing else changes but that the missing directories on its way are there.

There is one other failure: a lone surrogate in what the page is to show is found only when the
file has been opened, and so an earlier page is lost (`Config.createEscapedPage_of_error`).
-/

namespace JavaBuild.Checkstyle

/-- There is a content exactly if the engine has made a page. -/
theorem Rendering.content_eq_ok_iff {data style : Path} {rendering : Rendering} {content : String} :
    rendering.content data style = .ok content ↔ rendering = .page content := by
  unfold Rendering.content
  split <;> simp

namespace Config

open Workspace (CanHold Filed Grows Spared)

variable {c : Config} {engine : Engine} {escapes : Text.Escapes} {result : Option Result}
  {s s' : Session} {w : Workspace} {page : Path} {content : String} {f : Failure}

/-! ## The content -/

/-- What a page shows: what the engine makes of the report by the stylesheet, or the summary of
    the result, which is that of the report unless it is given. -/
def Shows (c : Config) (engine : Engine) (result : Option Result) (w : Workspace)
    (content : String) : Prop :=
  match c.style, result with
  | some style, _ => (engine w c.dataFile style).1 = .page content
  | none, some r => r.isShowable ∧ content = r.summary
  | none, none => ∃ bytes r, w.readFile c.dataFile = .ok bytes ∧
    Result.ofBytes c.dataFile bytes = .ok r ∧ content = r.summary

/-- Making the content of a page leaves the session as it is. -/
theorem runIn_pageContent (hreads : engine.OnlyReads) (c : Config) (result : Option Result)
    (s : Session) :
    (c.pageContent engine result).runIn s = (((c.pageContent engine result).runIn s).1, s) := by
  suffices hsame : ((c.pageContent engine result).runIn s).2 = s from Prod.ext rfl hsame
  unfold pageContent
  split
  · rw [runIn_renderPage, hreads]
    rfl
  · rw [Work.runIn_ofExcept]
  · rw [Work.runIn_bind]
    have hload := runIn_loadReport_snd c.dataFile s
    rcases hrun : (loadReport c.dataFile).runIn s with ⟨e | r, s'⟩ <;>
    · rw [hrun] at hload
      simpa using hload

/-- The content of a page is what it shows. -/
theorem pageContent_eq_ok_iff : ((c.pageContent engine result).runIn s).1 = .ok content ↔
    c.Shows engine result s.workspace content := by
  unfold pageContent Shows
  -- With a style the engine decides, without one the result that is given or read.
  cases hstyle : c.style with
  | some style =>
    simp only [runIn_renderPage]
    exact Rendering.content_eq_ok_iff
  | none =>
    cases result with
    | some r =>
      simp only [Work.runIn_ofExcept]
      rw [← Result.page_eq_ok_iff]
      cases r.page <;> rfl
    | none =>
      simp only [Work.runIn_bind]
      constructor
      · intro h
        rcases hrun : (loadReport c.dataFile).runIn s with ⟨e | r, s'⟩
        · rw [hrun] at h
          cases h
        · obtain ⟨-, bytes, hread, hr⟩ := loadReport_eq_ok hrun
          rw [hrun] at h
          simp only [Work.runIn_ofExcept, page_of_ofBytes hr] at h
          exact ⟨bytes, r, hread, hr, (Except.ok.inj h).symm⟩
      · rintro ⟨bytes, r, hread, hr, rfl⟩
        rw [loadReport_of_readFile hread, hr]
        simp only [Work.runIn_ofExcept, page_of_ofBytes hr]
        rfl

/-- A page shows one thing only. -/
theorem eq_of_shows {content' : String} (h : c.Shows engine result w content)
    (h' : c.Shows engine result w content') : content = content' := by
  have hcontent := pageContent_eq_ok_iff (s := ⟨w, [], [], []⟩).2 h
  rw [pageContent_eq_ok_iff (s := ⟨w, [], [], []⟩).2 h'] at hcontent
  exact (Except.ok.inj hcontent).symm

/-! ## The page -/

/-- The session once it has been said that a page is made. -/
def announced (page : Path) (s : Session) : Session :=
  { s with out := s.out ++ [s!"Creating checkstyle html report '{page}'"] }

theorem runIn_announce (page : Path) (s : Session) :
    (Work.print s!"Creating checkstyle html report '{page}'").runIn s =
      (.ok (), announced page s) := rfl

/-- A page whose content is complete is written as a file. -/
theorem runIn_createPage (hreads : engine.OnlyReads) (c : Config) (result : Option Result)
    (s : Session) : (c.createPage engine result).runIn s = match c.page s.workspace with
      | .error e => (.error (.file e), s)
      | .ok page => match ((c.pageContent engine result).runIn (announced page s)).1 with
        | .error f => (.error f, announced page s)
        | .ok content => match s.workspace.makeFile page content.toUTF8 with
          | (.error e, w') => (.error (.file e), { announced page s with workspace := w' })
          | (.ok (), w') => (.ok page, { announced page s with workspace := w' }) := by
  rw [createPage_eq, Work.runIn_bind, Work.runIn_inspect]
  cases c.page s.workspace with
  | error e => rfl
  | ok page =>
    simp only [mapError_ok, Work.runIn_bind, runIn_announce]
    rw [runIn_pageContent hreads]
    cases ((c.pageContent engine result).runIn (announced page s)).1 with
    | error f => rfl
    | ok content =>
      have hfiles : (announced page s).workspace = s.workspace := rfl
      simp only [Work.runIn_makeDirectories, hfiles, Workspace.makeFile]
      rcases s.workspace.makeDirectories page.parent with ⟨e | ⟨⟩, made⟩
      · rfl
      · simp only [mapError_ok, Work.writeText, Work.runIn_change]
        cases made.writeFile page content.toUTF8 <;> rfl

/-- A page is not made if the directories around it cannot be. -/
theorem createPage_of_makeDirectories {e : FileError} (hreads : engine.OnlyReads)
    (hpage : c.page s.workspace = .ok page)
    (hshows : c.Shows engine result s.workspace content)
    (h : s.workspace.makeDirectories page.parent = (.error e, w)) :
    (c.createPage engine result).runIn s = (.error (.file e),
      { announced page s with workspace := w }) := by
  have hcontent : ((c.pageContent engine result).runIn (announced page s)).1 = .ok content :=
    pageContent_eq_ok_iff.2 hshows
  rw [runIn_createPage hreads, hpage]
  simp only [hcontent, Workspace.makeFile_of_error content.toUTF8 h]

/-- The path of the page, as seen from the root. -/
theorem eq_of_page (h : c.page w = .ok page) :
    page = ⟨.absolute, w.place c.reportDir ++ [pageName]⟩ := by
  have hplace := place_of_page h
  rw [page_eq] at h
  obtain ⟨-, -, rfl⟩ := Workspace.resolve_eq_ok_iff.1 h
  rw [← hplace, (Workspace.place_of_resolve h).2]

/-- The path of the page starts at the root, … -/
theorem starts_page (h : c.page w = .ok page) : w.Starts page := by
  obtain rfl := eq_of_page h
  exact w.files.get?_nil

/-- … leads straight down, … -/
theorem dots_notMem_page (h : c.page w = .ok page) : ".." ∉ page.parts :=
  (Workspace.place_of_resolve (page_eq c w ▸ h)).1

/-- … and not to the root itself. -/
theorem parts_page_ne_nil (h : c.page w = .ok page) : page.parts ≠ [] := by
  obtain rfl := eq_of_page h
  exact List.concat_ne_nil _ _

/-- A NUL in the path of the page is in that of the directory of the reports. -/
theorem nul_mem_parent_of_page (h : c.page w = .ok page) (hnul : '\x00' ∈ page.toString.toList) :
    '\x00' ∈ page.parent.toString.toList := by
  rw [Path.mem_toString_iff (by decide) (by decide)] at hnul ⊢
  obtain rfl := eq_of_page h
  obtain ⟨name, hname, hnul⟩ := hnul
  refine ⟨name, ?_, hnul⟩
  rw [Path.parent, List.dropLast_concat]
  refine (List.mem_append.1 hname).resolve_right fun hpage => ?_
  rw [List.mem_singleton.1 hpage] at hnul
  exact absurd hnul (by decide)

/-! ## Lone surrogates -/

/-- Lone surrogates make no difference if there are none in what a page shows. -/
theorem createEscapedPage_of_isUnicode (c : Config) (s : Session) (hunicode : ∀ content,
      c.Shows engine result s.workspace content → escapes.IsUnicode content) :
    (c.createEscapedPage escapes engine result).runIn s = (c.createPage engine result).runIn s := by
  rw [createEscapedPage, createPage_eq, Work.runIn_bind, Work.runIn_bind, Work.runIn_inspect]
  cases c.page s.workspace with
  | error e => rfl
  | ok page =>
    simp only [mapError_ok, Work.runIn_bind, runIn_announce]
    rcases hcontent : (c.pageContent engine result).runIn (announced page s) with
      ⟨f | content, s'⟩
    · rfl
    · have hshows : c.Shows engine result (announced page s).workspace content :=
        pageContent_eq_ok_iff.1 (congrArg Prod.fst hcontent)
      simp only [Work.writeEscaped_of_isUnicode (hunicode content hshows)]

/-- Where a page could be made, a lone surrogate in what it shows makes this fail, and leaves
    an empty page. -/
theorem createEscapedPage_of_error {error : Text.EncodeError}
    (hshows : c.Shows engine result s.workspace content)
    (htext : escapes.encode content = .error error)
    (h : (c.createPage engine result).runIn s = (.ok page, s')) : ∃ s'',
      (c.createEscapedPage escapes engine result).runIn s = (.error (.unencodable error), s'') ∧
      s''.workspace.readFile page = .ok .empty := by
  rw [createPage_eq] at h
  obtain ⟨found, s₁, hpage, hrest⟩ := Work.runIn_bind_eq_ok h
  obtain ⟨-, rfl⟩ := Work.eq_of_runIn_inspect hpage
  obtain ⟨⟨⟩, s₂, hprint, hrest⟩ := Work.runIn_bind_eq_ok hrest
  obtain rfl : announced found s₁ = s₂ := congrArg Prod.snd hprint
  obtain ⟨shown, s₃, hcontent, hrest⟩ := Work.runIn_bind_eq_ok hrest
  obtain ⟨⟨⟩, s₄, hmade, hrest⟩ := Work.runIn_bind_eq_ok hrest
  obtain ⟨⟨⟩, s₅, hwrite, hrest⟩ := Work.runIn_bind_eq_ok hrest
  obtain rfl : found = page := Except.ok.inj (congrArg Prod.fst hrest)
  -- What is shown does not depend on what has been printed.
  obtain rfl : content = shown :=
    eq_of_shows hshows
      (pageContent_eq_ok_iff (s := announced found s₁).1 (congrArg Prod.fst hcontent))
  obtain ⟨workspace, hfails, hread⟩ := Work.runIn_writeEscaped_of_error htext hwrite
  refine ⟨{ s₄ with workspace }, ?_, hread⟩
  simp only [createEscapedPage, Work.runIn_bind, hpage, runIn_announce, hcontent, hmade, hfails]

/-- Where a page cannot be made, lone surrogates make no difference. -/
theorem createEscapedPage_of_refused (escapes : Text.Escapes)
    (h : (c.createPage engine result).runIn s = (.error f, s')) :
    (c.createEscapedPage escapes engine result).runIn s = (.error f, s') := by
  rw [createPage_eq] at h
  simp only [createEscapedPage, Work.runIn_bind] at h ⊢
  rcases hpage : (Work.inspect c.page).runIn s with ⟨e | page, s₁⟩
  · rwa [hpage] at h
  simp only [hpage, runIn_announce] at h ⊢
  rcases hcontent : (c.pageContent engine result).runIn (announced page s₁) with ⟨e | content, s₂⟩
  · rwa [hcontent] at h
  simp only [hcontent] at h ⊢
  rcases hmade : (Work.makeDirectories page.parent).runIn s₂ with ⟨e | ⟨⟩, s₃⟩
  · rwa [hmade] at h
  simp only [hmade] at h ⊢
  rcases hwrite : (Work.writeText page content).runIn s₃ with ⟨e | ⟨⟩, s₄⟩
  · rw [hwrite] at h
    rwa [Work.runIn_writeEscaped_of_refused escapes hwrite]
  · rw [hwrite] at h
    cases h

/-- What a failure to make a page leaves: no file has changed, and no directory has been made,
    unless the path of the page is too long. Then there may be directories on its way. -/
structure SparedBy (c : Config) (f : Failure) (w w' : Workspace) : Prop where
  grows : Grows (· <+: w.place c.reportDir) w w'
  cause : w' = w ∨ ((∃ q, f = .file (.on .nameTooLong q)) ∧
    ∃ page, c.page w = .ok page ∧ ¬page.Fits)

theorem sparedBy_of_eq {w' : Workspace} (h : w' = w) : c.SparedBy f w w' :=
  ⟨h ▸ .refl _ _, .inl h⟩

/-- A file that cannot be made for the page spares the rest. -/
theorem sparedBy_of_spared {e : FileError} {w' : Workspace} (hpage : c.page w = .ok page)
    (h : Spared page e w w') : c.SparedBy (.file e) w w' := by
  have hplace : w.place page.parent = w.place c.reportDir := by
    have hdots : ".." ∉ page.parent.parts :=
      fun hmem => dots_notMem_page hpage (List.dropLast_subset _ hmem)
    rw [Workspace.place_of_not_mem hdots]
    obtain rfl := eq_of_page hpage
    exact List.dropLast_concat
  refine ⟨hplace ▸ h.grows, h.cause.imp_right ?_⟩
  rintro ⟨⟨q, rfl⟩, hfits⟩
  exact ⟨⟨q, rfl⟩, page, hpage, hfits⟩

/-- What making a page comes to. -/
theorem createPage_cases (c : Config) (hreads : engine.OnlyReads) (result : Option Result)
    (s : Session) :
    (∃ page content s', (c.createPage engine result).runIn s = (.ok page, s') ∧
      c.page s.workspace = .ok page ∧ c.Shows engine result s.workspace content ∧
      s.workspace.CanHold page ∧ Filed page content.toUTF8 s.workspace s'.workspace) ∨
    ∃ f s', (c.createPage engine result).runIn s = (.error f, s') ∧
      c.SparedBy f s.workspace s'.workspace ∧ ∀ page content, c.page s.workspace = .ok page →
        c.Shows engine result s.workspace content → ¬s.workspace.CanHold page := by
  have hrun := runIn_createPage hreads c result s
  cases hpage : c.page s.workspace with
  | error e =>
    rw [hpage] at hrun
    exact .inr ⟨_, _, hrun, sparedBy_of_eq rfl, fun _ _ h => nomatch h⟩
  | ok page =>
    have hshows (content : String) : ((c.pageContent engine result).runIn (announced page s)).1 =
        .ok content ↔ c.Shows engine result s.workspace content := pageContent_eq_ok_iff
    rw [hpage] at hrun
    cases hcontent : ((c.pageContent engine result).runIn (announced page s)).1 with
    -- There is nothing to show, so making the page stops before any file operation.
    | error f =>
      simp only [hcontent] at hrun
      refine .inr ⟨_, _, hrun, sparedBy_of_eq rfl, fun _ content _ h => ?_⟩
      rw [(hshows content).2 h] at hcontent
      cases hcontent
    | ok content =>
      simp only [hcontent] at hrun
      rcases Workspace.makeFile_cases (starts_page hpage) (dots_notMem_page hpage)
        (parts_page_ne_nil hpage) (nul_mem_parent_of_page hpage) content.toUTF8 with
        ⟨w', hmake, hholds, hfiled⟩ | ⟨e, w', hmake, hrefused, hspared⟩
      · simp only [hmake] at hrun
        exact .inl ⟨page, content, _, hrun, rfl, (hshows content).1 hcontent, hholds, hfiled⟩
      · simp only [hmake] at hrun
        refine .inr ⟨_, _, hrun, sparedBy_of_spared hpage hspared, fun page' _ h _ => ?_⟩
        cases h
        exact hrefused

/-- A page cannot be made because there is a lone surrogate in what it shows. -/
def Unwritable (c : Config) (escapes : Text.Escapes) (engine : Engine) (result : Option Result)
    (w : Workspace) (f : Failure) : Prop :=
  ∃ content error, c.Shows engine result w content ∧ escapes.encode content = .error error ∧
    f = .unencodable error

/-- What making a page comes to if there may be lone surrogates. -/
theorem createEscapedPage_cases (c : Config) (escapes : Text.Escapes) (hreads : engine.OnlyReads)
    (result : Option Result) (s : Session) :
    (∃ page content s', (c.createEscapedPage escapes engine result).runIn s = (.ok page, s') ∧
      c.page s.workspace = .ok page ∧ c.Shows engine result s.workspace content ∧
      escapes.IsUnicode content ∧ s.workspace.CanHold page ∧
      Filed page content.toUTF8 s.workspace s'.workspace) ∨
    ∃ f s', (c.createEscapedPage escapes engine result).runIn s = (.error f, s') ∧
      (c.SparedBy f s.workspace s'.workspace ∨
        c.Unwritable escapes engine result s.workspace f) ∧
      ∀ page content, c.page s.workspace = .ok page → c.Shows engine result s.workspace content →
        escapes.IsUnicode content → ¬s.workspace.CanHold page := by
  rcases createPage_cases c hreads result s with
    ⟨page, content, s', hrun, hpage, hshows, hholds, hfiled⟩ | ⟨f, s', hrun, hspared, hrefused⟩
  · cases htext : escapes.encode content with
    | ok bytes =>
      have hunicode := (Text.Escapes.encode_eq_ok_iff.1 htext).1
      rw [createEscapedPage_of_isUnicode c s fun content' h' => eq_of_shows hshows h' ▸ hunicode]
      exact .inl ⟨page, content, s', hrun, hpage, hshows, hunicode, hholds, hfiled⟩
    | error error =>
      obtain ⟨s'', hfails, -⟩ := createEscapedPage_of_error hshows htext hrun
      refine .inr ⟨_, s'', hfails, .inr ⟨content, error, hshows, htext, rfl⟩,
        fun _ content' _ h' hunicode => ?_⟩
      rw [eq_of_shows hshows h', Text.Escapes.encode_eq_ok_iff.2 ⟨hunicode, rfl⟩] at htext
      cases htext
  · exact .inr ⟨f, s', createEscapedPage_of_refused escapes hrun, .inl hspared,
      fun page content hpage hshows _ => hrefused page content hpage hshows⟩

/-- Making a page is atomic as far as the system takes its path and what it shows can be
    written. If it fails otherwise, no file has changed, and nothing else either unless the path
    is too long. If it succeeds, the file of the page has what it shows, and the missing
    directories on its way are there. It succeeds whenever there is something to show that can
    be written, and a file can stand in the place of the page. -/
theorem createEscapedPage_atomic (c : Config) (escapes : Text.Escapes) (engine : Engine)
    (result : Option Result) (s : Session) (hreads : engine.OnlyReads) :
    (∀ f s', (c.createEscapedPage escapes engine result).runIn s = (.error f, s') →
      c.SparedBy f s.workspace s'.workspace ∨
        c.Unwritable escapes engine result s.workspace f) ∧
    (∀ page s', (c.createEscapedPage escapes engine result).runIn s = (.ok page, s') →
      c.page s.workspace = .ok page ∧ ∃ content, c.Shows engine result s.workspace content ∧
        Filed page content.toUTF8 s.workspace s'.workspace) ∧
    ((∃ page s', (c.createEscapedPage escapes engine result).runIn s = (.ok page, s')) ↔
      ∃ page content, c.page s.workspace = .ok page ∧ c.Shows engine result s.workspace content ∧
        escapes.IsUnicode content ∧ s.workspace.CanHold page) := by
  rcases createEscapedPage_cases c escapes hreads result s with
    ⟨page, content, s', hrun, hpage, hshows, hunicode, hholds, hfiled⟩ |
      ⟨f, s', hrun, hspared, hrefused⟩
  · rw [hrun]
    refine ⟨fun f _ h => ?_, fun _ _ h => ?_, fun _ => ?_, fun _ => ⟨page, s', rfl⟩⟩
    · cases h
    · cases h
      exact ⟨hpage, content, hshows, hfiled⟩
    · exact ⟨page, content, hpage, hshows, hunicode, hholds⟩
  · rw [hrun]
    refine ⟨fun _ _ h => ?_, fun page _ h => ?_, ?_, ?_⟩
    · cases h
      exact hspared
    · cases h
    · rintro ⟨page, s'', h⟩
      cases h
    · rintro ⟨page, content, hpage, hshows, hunicode, hholds⟩
      exact absurd hholds (hrefused page content hpage hshows hunicode)

/-- A configuration whose page is in the working directory. -/
def samplePage : Config where
  reportDir := .here
  dataFile := .ofString "d.xml"

/-- An earlier page, and a report that ends too early. -/
def sampleBroken : Session where
  workspace := .holding [("d.xml", "<checkstyle>"), (pageName, "old")]

theorem page_samplePage :
    samplePage.page sampleBroken.workspace = .ok ⟨.absolute, ["w", pageName]⟩ := by
  decide +kernel

theorem canHold_samplePage : sampleBroken.workspace.CanHold ⟨.absolute, ["w", pageName]⟩ where
  fits := by decide +kernel
  clear m hm bytes hfile := by
    have hroute : ∀ m ∈ sampleBroken.workspace.route ⟨.absolute, ["w"]⟩,
        sampleBroken.workspace.files.isDirectory m := by
      decide +kernel
    rw [FileTree.isDirectory_iff.1 (hroute m hm)] at hfile
    cases hfile
  free := by
    rw [ne_eq, ← FileTree.isDirectory_iff]
    decide +kernel

/-- The earlier page stays if the report is shown, which fails, and is replaced if a result is
    given. -/
theorem createEscapedPage_atomic_sample :
    Stylesheet.engine.OnlyReads ∧
    (∃ f s', (samplePage.createEscapedPage .privateUse Stylesheet.engine none).runIn
        sampleBroken = (.error f, s') ∧
      s'.workspace = sampleBroken.workspace ∧
      s'.workspace.files.get? ["w", pageName] = some (.file "old".toUTF8)) ∧
    ∃ page s', (samplePage.createEscapedPage .privateUse Stylesheet.engine (some {})).runIn
        sampleBroken = (.ok page, s') ∧
      samplePage.page sampleBroken.workspace = .ok page ∧ ∃ content,
        samplePage.Shows Stylesheet.engine (some {}) sampleBroken.workspace content ∧
          Filed page content.toUTF8 sampleBroken.workspace s'.workspace := by
  have hreads : Stylesheet.engine.OnlyReads := fun _ _ _ => rfl
  have hatomic (result : Option Result) :=
    createEscapedPage_atomic samplePage .privateUse Stylesheet.engine result sampleBroken hreads
  refine ⟨hreads, ?_, ?_⟩
  · have hfits : ¬∃ page, samplePage.page sampleBroken.workspace = .ok page ∧ ¬page.Fits := by
      decide +kernel
    -- The report cannot be read, so that nothing is shown.
    have hbroken : ((samplePage.pageContent Stylesheet.engine none).runIn
        sampleBroken).1.isOk = false := by
      decide +kernel
    have hshows (content : String) :
        ¬samplePage.Shows Stylesheet.engine none sampleBroken.workspace content := fun h => by
      rw [← pageContent_eq_ok_iff] at h
      rw [h] at hbroken
      cases hbroken
    rcases hrun : (samplePage.createEscapedPage .privateUse Stylesheet.engine none).runIn
      sampleBroken with ⟨f | page, s'⟩
    · rcases (hatomic none).1 f s' hrun with hspared | ⟨content, _, h, -⟩
      · have hkept := hspared.cause.resolve_right fun hlong => hfits hlong.2
        refine ⟨f, s', rfl, hkept, ?_⟩
        rw [hkept]
        rfl
      · exact absurd h (hshows content)
    · obtain ⟨-, content, h, -⟩ := (hatomic none).2.1 page s' hrun
      exact absurd h (hshows content)
  · have hunicode : Text.Escapes.privateUse.IsUnicode ({} : Result).summary :=
      Result.isUnicode_summary_iff.2 (List.forall_mem_nil _)
    have hshows : samplePage.Shows Stylesheet.engine (some {}) sampleBroken.workspace
      ({} : Result).summary := ⟨rfl, rfl⟩
    obtain ⟨page, s', hrun⟩ := (hatomic (some {})).2.2.2
      ⟨_, _, page_samplePage, hshows, hunicode, canHold_samplePage⟩
    exact ⟨page, s', hrun, (hatomic (some {})).2.1 page s' hrun⟩

/-- A name that is too long. -/
def longName : String := String.ofList (List.replicate 256 'a')

/-- A configuration by which the reports are in a directory with such a name, in one that has to
    be made before. -/
def sampleTooLong : Config where
  reportDir := ⟨.relative, ["a", longName]⟩

theorem longName_ne_dots : longName ≠ ".." := fun h =>
  absurd (congrArg String.utf8ByteSize h) (by decide +kernel)

theorem nul_notMem_longName : '\x00' ∉ longName.toList := by
  have hchars : longName.toList = List.replicate 256 'a' := String.toList_ofList
  rw [hchars, List.mem_replicate, not_and]
  intro _
  decide

theorem nul_notMem_sampleTooLong (anchor : Anchor) {names : List String}
    (h : names ⊆ ["w", "a", longName, pageName]) :
    '\x00' ∉ (⟨anchor, names⟩ : Path).toString.toList := by
  rw [Path.mem_toString_iff (by decide) (by decide)]
  rintro ⟨name, hname, hnul⟩
  have hnames : name = "w" ∨ name = "a" ∨ name = longName ∨ name = pageName := by
    simpa using h hname
  rcases hnames with rfl | rfl | rfl | rfl
  · exact absurd hnul (by decide)
  · exact absurd hnul (by decide)
  · exact nul_notMem_longName hnul
  · exact absurd hnul (by decide)

theorem page_sampleTooLong : sampleTooLong.page (.holding []) =
    .ok ⟨.absolute, ["w", "a", longName, pageName]⟩ := by
  have hdots : ".." ∉ ["a", longName, pageName] := by
    simp [longName_ne_dots.symm, pageName]
  rw [page_eq, Workspace.resolve_eq_ok_iff]
  refine ⟨nul_notMem_sampleTooLong _ (List.subset_cons_self _ _), rfl, ?_⟩
  exact congrArg (Path.mk .absolute) (Workspace.lexical_of_not_mem ["w"] hdots).symm

/-- The directory before the name is made: the name is looked up only after that. -/
theorem makeDirectories_sampleTooLong :
    (Workspace.holding []).makeDirectories ⟨.absolute, ["w", "a", longName]⟩ =
      (.error (.on .nameTooLong ⟨.absolute, ["w", "a", longName]⟩),
        ((Workspace.holding []).makeDirectories ⟨.absolute, ["w", "a"]⟩).2) := by
  have hnul := nul_notMem_sampleTooLong .absolute (List.prefix_append ["w", "a", longName] _).subset
  have hentry : (Workspace.holding []).follow ⟨.absolute, ["w", "a", longName]⟩ =
      .error .noEntry := rfl
  have hfits : ¬(⟨.absolute, ["w", "a", longName]⟩ : Path).Fits := fun hfits =>
    absurd (hfits.names longName (by simp)) (by decide +kernel)
  refine Workspace.makeDirectories_of_tooLong (FileTree.get?_nil _) (List.cons_ne_nil _ _) hnul
    hfits (Workspace.locate_of_follow_eq_error ⟨hnul, by decide +kernel⟩ hentry) ?_
  have hok : ((Workspace.holding []).makeDirectories ⟨.absolute, ["w", "a"]⟩).1.toOption =
      some () := by
    decide +kernel
  rcases hmade : (Workspace.holding []).makeDirectories ⟨.absolute, ["w", "a"]⟩ with
    ⟨e | ⟨⟩, made⟩
  · rw [hmade] at hok
    cases hok
  · exact congrArg Prod.fst hmade

/-- A result with a lone surrogate in the name of a file. -/
def sampleEscaped : Result where
  files := ["\ue080.java"]
  violations := [⟨"\ue080.java", 1, none, "error", "", ""⟩]

/-- The earlier page is emptied when it is to show this result. -/
theorem createEscapedPage_sampleEscaped : ∃ error s',
    (samplePage.createEscapedPage .privateUse Stylesheet.engine
      (some sampleEscaped)).runIn sampleBroken = (.error (.unencodable error), s') ∧
    s'.workspace.readFile ⟨.absolute, ["w", pageName]⟩ = .ok .empty := by
  have hreads : Stylesheet.engine.OnlyReads := fun _ _ _ => rfl
  have hshows : samplePage.Shows Stylesheet.engine (some sampleEscaped)
      sampleBroken.workspace sampleEscaped.summary :=
    ⟨by decide +kernel, rfl⟩
  obtain ⟨error, htext⟩ := Text.Escapes.exists_encode_eq_error
    (mt Result.isUnicode_summary_iff.1
      (show ¬∀ v ∈ sampleEscaped.violations, v.IsUnicode .privateUse by decide +kernel))
  rcases createPage_cases samplePage hreads (some sampleEscaped) sampleBroken with
    ⟨page, _, _, hrun, hpage, -⟩ | ⟨f, s', -, -, hrefused⟩
  · obtain ⟨s', hfails, hread⟩ := createEscapedPage_of_error hshows htext hrun
    cases page_samplePage.symm.trans hpage
    exact ⟨error, s', hfails, hread⟩
  · exact absurd canHold_samplePage (hrefused _ _ page_samplePage hshows)

/-- Where a name is too long for the system, the directories before it stay, and where there is
    a lone surrogate in what a page shows, the earlier page is lost. -/
theorem not_forall_createEscapedPage_kept :
    (¬∀ (c : Config) (engine : Engine) (result : Option Result) (s s' : Session) (f : Failure),
      engine.OnlyReads → (c.createEscapedPage .empty engine result).runIn s = (.error f, s') →
        s'.workspace = s.workspace) ∧
    ∃ error s', (samplePage.createEscapedPage .privateUse Stylesheet.engine
        (some sampleEscaped)).runIn sampleBroken = (.error (.unencodable error), s') ∧
      sampleBroken.workspace.readFile ⟨.absolute, ["w", pageName]⟩ = .ok "old".toUTF8 ∧
      s'.workspace.readFile ⟨.absolute, ["w", pageName]⟩ = .ok .empty := by
  have hreads : Stylesheet.engine.OnlyReads := fun _ _ _ => rfl
  refine ⟨fun h => ?_, ?_⟩
  · have hshows : sampleTooLong.Shows Stylesheet.engine (some {}) (.holding [])
      ({} : Result).summary := ⟨rfl, rfl⟩
    have hrun := createPage_of_makeDirectories (s := ⟨.holding [], [], [], []⟩) hreads
      page_sampleTooLong hshows makeDirectories_sampleTooLong
    have hkept : ((Workspace.holding []).makeDirectories ⟨.absolute, ["w", "a"]⟩).2 =
        .holding [] := h _ _ _ _ _ _ hreads hrun
    have hmade : (((Workspace.holding []).makeDirectories
        ⟨.absolute, ["w", "a"]⟩).2.files.get? ["w", "a"]).isSome := by
      decide +kernel
    rw [hkept] at hmade
    exact absurd hmade (by decide +kernel)
  · obtain ⟨error, s', hfails, hread⟩ := createEscapedPage_sampleEscaped
    exact ⟨error, s', hfails, by decide +kernel, hread⟩

end Config

end JavaBuild.Checkstyle
