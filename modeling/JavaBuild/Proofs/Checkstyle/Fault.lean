import JavaBuild.Checkstyle.Settings
import JavaBuild.Proofs.Checkstyle.OwnFiles
import JavaBuild.Proofs.Checkstyle.Run
import JavaBuild.Proofs.Checkstyle.Selection
import JavaBuild.Proofs.Checkstyle.Showable

/-!
# Faults of Checkstyle runs

A run of Checkstyle can fail without the user being told. This is so for some values in the
settings (`SettingFault`), for reports in an unknown encoding or with lines and columns that
are no numbers (`ReportFault`), for commands and engines that fail so themselves, and for the
rest of what is listed in `Config.RunFault`. No other failure of a run is left untold
(`Config.faultsBy_createReport`, `Config.faultsBy_createPage`, `Config.faultsBy_clean`).
-/

namespace JavaBuild

variable {bytes : ByteArray} {f : Failure}

/-- A value is a text. -/
def Value.IsText (v : Value) : Prop := ∃ s, v = .text s

/-- The encoding that a document names is none that can be read. -/
inductive Xml.EncodingFault (bytes : ByteArray) : Failure → Prop
  | intro {name : String} {e : EncodingError} (h : readDocument bytes = .error (.encoding name e)) :
    EncodingFault bytes (.xmlEncoding name e)

namespace Checkstyle

variable {settings : Toml.Fields} {base : Path} {key text : String} {v : Value}

/-! ## Settings -/

/-- A value in the settings cannot be used. -/
inductive SettingFault (settings : Toml.Fields) : Failure → Prop
  /-- These name one path each, also if an empty text is given. -/
  | place {key : String} {v : Value} (key_mem : key ∈ ["report-dir", "data-file"])
    (found : Value.field? settings key = some v) (h : ¬v.IsText) :
    SettingFault settings .wrongKind
  /-- These name one path each, or none. -/
  | file {key : String} {v : Value} (key_mem : key ∈ ["config", "style"])
    (found : Value.field? settings key = some v) (given : v.isGiven) (h : ¬v.IsText) :
    SettingFault settings .wrongKind
  | item {key : String} {v item : Value} (key_mem : key ∈ ["sources", "classpath"])
    (found : Value.field? settings key = some v) (item_mem : item ∈ itemsOf v)
    (h : ¬item.IsText) : SettingFault settings .wrongKind
  /-- A limit is infinite. -/
  | limit {key : String} {x : Decimal.Binary64} (key_mem : key ∈ ["max-errors", "max-warnings"])
    (found : Value.field? settings key = some (.float x)) (h : x.magnitude = .infinite) :
    SettingFault settings .infinite
  /-- A text is no pattern, but not for a fault that has a message. -/
  | pattern {key text : String} {v : Value} {e : Pattern.PatternError}
    (key_mem : key ∈ ["include", "exclude"]) (found : Value.field? settings key = some v)
    (item_mem : .text text ∈ itemsOf v) (h : Pattern.ofString text false = .error e)
    (kind : ∀ fault left, e ≠ .malformed fault left) :
    SettingFault settings (patternFailure text e)
  /-- A number has too many digits for a version, and for the message about what is no flag, … -/
  | digits {key : String} {v : Value} (key_mem : key ∈ ["version", "fail-on-violation"])
    (found : Value.field? settings key = some v) (h : v.isShowable = false) :
    SettingFault settings .tooManyDigits
  /-- … or about what is no limit, which the number itself would be. -/
  | limitDigits {key : String} {v : Value} (key_mem : key ∈ ["max-errors", "max-warnings"])
    (found : Value.field? settings key = some v) (kind : ∀ n, v ≠ .int n)
    (h : v.isShowable = false) : SettingFault settings .tooManyDigits

/-- A setting, which has a default. -/
def setting (settings : Toml.Fields) (key : String) (default : Value) : Value :=
  (Value.field? settings key).getD default

/-- A setting is the default unless it is found. -/
theorem setting_cases (settings : Toml.Fields) (key : String) (default : Value) :
    Value.field? settings key = some (setting settings key default) ∨
      setting settings key default = default := by
  rw [setting]
  cases Value.field? settings key with
  | none => exact .inr rfl
  | some v => exact .inl rfl

/-- Only a text can be a path. -/
theorem pathOf_eq_error (h : pathOf base v = .error f) : f = .wrongKind ∧ ¬v.IsText := by
  cases v with
  | text s => cases h
  | _ =>
    cases h
    exact ⟨rfl, fun ⟨s, hs⟩ => nomatch hs⟩

/-- The report directory or the data file cannot be read from its setting, … -/
theorem fault_of_place (hkey : key ∈ ["report-dir", "data-file"])
    (h : pathOf base (setting settings key (.text text)) = .error f) :
    SettingFault settings f := by
  obtain ⟨rfl, hkind⟩ := pathOf_eq_error h
  rcases setting_cases settings key (.text text) with hfound | hdefault
  · exact .place hkey hfound hkind
  · exact absurd ⟨text, hdefault⟩ hkind

/-- … nor can the rules or the stylesheet. -/
theorem fault_of_file (hkey : key ∈ ["config", "style"])
    (h : pathOf? base (setting settings key .null) = .error f) : SettingFault settings f := by
  rw [pathOf?] at h
  split at h
  · rename_i hgiven
    cases hpath : pathOf base (setting settings key .null) with
    | error f' =>
      rw [hpath] at h
      cases h
      obtain ⟨rfl, hkind⟩ := pathOf_eq_error hpath
      rcases setting_cases settings key .null with hfound | hdefault
      · exact .file hkey hfound hgiven hkind
      · rw [hdefault] at hgiven
        cases hgiven
    | ok p =>
      rw [hpath] at h
      cases h
  · cases h

/-- The user is told that a value is refused, unless it has too many digits to be shown. -/
theorem refusal_cases (v : Value) (e : CheckstyleError) :
    refusal v e = .checkstyle e ∨ (refusal v e = .tooManyDigits ∧ v.isShowable = false) := by
  rw [refusal]
  split
  · exact .inl rfl
  · exact .inr ⟨rfl, Bool.eq_false_iff.2 ‹_›⟩

/-- The user is told of a flag that cannot be read, if it can be shown. -/
theorem flagOf_eq_error (h : flagOf key v = .error f) :
    (∃ e, f = .checkstyle e) ∨ (f = .tooManyDigits ∧ v.isShowable = false) := by
  unfold flagOf at h
  split at h
  · cases h
  · split at h
    · cases h
    · split at h <;> cases h
      exact .inl ⟨_, rfl⟩
  · cases h
    exact (refusal_cases v _).imp_left fun he => ⟨_, he⟩

/-- The flag cannot be read from its setting: the user is told, or its value is at fault. -/
theorem told_or_fault_of_flag
    (h : flagOf "fail-on-violation" (setting settings "fail-on-violation" (.bool true)) =
      .error f) : (∃ e, f = .checkstyle e) ∨ SettingFault settings f := by
  refine (flagOf_eq_error h).imp_right ?_
  rintro ⟨rfl, hdigits⟩
  rcases setting_cases settings "fail-on-violation" (.bool true) with hfound | hdefault
  · exact .digits (by simp) hfound hdigits
  · rw [hdefault] at hdigits
    cases hdigits

/-- Of a limit that is no number the user is told, if it can be shown, unless it is infinite. -/
theorem numberOf_eq_error (h : numberOf key v = .error f) :
    (∃ e, f = .checkstyle e) ∨
      (f = .tooManyDigits ∧ v.isShowable = false ∧ ∀ n, v ≠ .int n) ∨
      (f = .infinite ∧ ∃ x, v = .float x ∧ x.magnitude = .infinite) := by
  -- A value of the wrong kind is told with its text, if that can be shown.
  have hrefused (h : Except.error (refusal v (.badNumber key v)) = (.error f : Except Failure Int))
      (hkind : ∀ n, v ≠ .int n) : (∃ e, f = .checkstyle e) ∨
        (f = .tooManyDigits ∧ v.isShowable = false ∧ ∀ n, v ≠ .int n) ∨
        (f = .infinite ∧ ∃ x, v = .float x ∧ x.magnitude = .infinite) := by
    cases h
    rcases refusal_cases v (.badNumber key v) with he | ⟨he, hdigits⟩
    · exact .inl ⟨_, he⟩
    · exact .inr (.inl ⟨he, hdigits, hkind⟩)
  cases v with
  | bool b => cases h
  | int m => cases h
  | float x =>
    simp only [numberOf] at h
    split at h
    · cases h
    · rename_i hinfinite
      cases h
      exact .inr (.inr ⟨rfl, x, rfl, hinfinite⟩)
    · exact hrefused h fun n hn => nomatch hn
  | text s =>
    simp only [numberOf] at h
    split at h
    · cases h
    · exact hrefused h fun n hn => nomatch hn
  | _ => exact hrefused h fun n hn => nomatch hn

/-- So it is with a limit. -/
theorem told_or_fault_of_limit {n : Int} (hkey : key ∈ ["max-errors", "max-warnings"])
    (h : numberOf key (setting settings key (.int n)) = .error f) :
    (∃ e, f = .checkstyle e) ∨ SettingFault settings f := by
  rcases setting_cases settings key (.int n) with hfound | hdefault
  · refine (numberOf_eq_error h).imp_right ?_
    rintro (⟨rfl, hdigits, hkind⟩ | ⟨rfl, x, hx, hinfinite⟩)
    · exact .limitDigits hkey hfound hkind hdigits
    · exact .limit hkey (hx ▸ hfound) hinfinite
  · rw [hdefault] at h
    cases h

/-- The version cannot be read from its setting, … -/
theorem fault_of_version
    (h : versionOf (setting settings "version" (.text expectedVersion)) = .error f) :
    SettingFault settings f := by
  rw [versionOf] at h
  split at h
  · cases h
  · rename_i hdigits
    cases h
    rcases setting_cases settings "version" (.text expectedVersion) with hfound | hdefault
    · exact .digits (by simp) hfound (Bool.eq_false_iff.2 hdigits)
    · rw [hdefault] at hdigits
      exact absurd rfl hdigits

/-- … nor can a list of paths, none of which is wrong by default. -/
theorem fault_of_items {default : Value} (hkey : key ∈ ["sources", "classpath"])
    (hdefault : ∀ item ∈ itemsOf default, item.IsText)
    (h : (itemsOf (setting settings key default)).mapM (pathOf base) = .error f) :
    SettingFault settings f := by
  obtain ⟨item, hmem, hitem⟩ := exists_of_mapM_eq_error h
  obtain ⟨rfl, hkind⟩ := pathOf_eq_error hitem
  rcases setting_cases settings key default with hfound | heq
  · exact .item hkey hfound hmem hkind
  · rw [heq] at hmem
    exact absurd (hdefault item hmem) hkind

/-- The patterns that a setting gives. -/
def givenPatterns (settings : Toml.Fields) (key : String) : List GivenPattern :=
  (itemsOf (setting settings key .null)).map .value

/-- What is in a list that is empty by default has been given. -/
theorem found_of_mem_items {item : Value} (h : item ∈ itemsOf (setting settings key .null)) :
    ∃ v, Value.field? settings key = some v ∧ item ∈ itemsOf v := by
  rcases setting_cases settings key .null with hfound | hdefault
  · exact ⟨_, hfound, h⟩
  · rw [hdefault] at h
    exact absurd h List.not_mem_nil

/-- A list of patterns cannot be compiled: the user is told, or a value is at fault. -/
theorem told_or_fault_of_patterns (hkey : key ∈ ["include", "exclude"])
    (h : (givenPatterns settings key).mapM GivenPattern.compile = .error f) :
    (∃ e, f = .checkstyle e) ∨ SettingFault settings f := by
  -- The first of the patterns that does not compile is a text, as nothing else is compiled.
  obtain ⟨given, hgiven, hcompile⟩ := exists_of_mapM_eq_error h
  obtain ⟨item, hitem, rfl⟩ := List.mem_map.1 hgiven
  obtain ⟨v, hfound, hmem⟩ := found_of_mem_items hitem
  cases item with
  | text s =>
    rw [GivenPattern.compile] at hcompile
    obtain ⟨e, he, rfl⟩ := mapError_eq_error_iff.1 hcompile
    cases hpattern : Pattern.ofString s false with
    | ok p =>
      rw [hpattern] at he
      cases he
    | error e' =>
      rw [hpattern] at he
      cases he
      cases e with
      -- The user is told of a pattern that is malformed, but not of the limits of the engine.
      | malformed fault left => exact .inl ⟨_, rfl⟩
      | tooManyRepetitions | tooLong _ | conflictingAlphabets =>
        exact .inr (.pattern hkey hfound hmem hpattern nofun)
  | _ => cases hcompile

/-- Settings give no configuration only if the user is told so, or because of a value that
    cannot be used. -/
theorem told_or_fault_of_ofSettings (h : Config.ofSettings settings base = .error f) :
    (∃ e, f = .checkstyle e) ∨ SettingFault settings f := by
  unfold Config.ofSettings at h
  rcases bind_eq_error_iff.1 h with h | ⟨reportDir, -, h⟩
  · exact .inr (fault_of_place (by simp) h)
  rcases bind_eq_error_iff.1 h with h | ⟨dataFile, -, h⟩
  · exact .inr (fault_of_place (by simp) h)
  rcases bind_eq_error_iff.1 h with h | ⟨rules, -, h⟩
  · exact .inr (fault_of_file (by simp) h)
  rcases bind_eq_error_iff.1 h with h | ⟨style, -, h⟩
  · exact .inr (fault_of_file (by simp) h)
  rcases bind_eq_error_iff.1 h with h | ⟨strict, -, h⟩
  · exact told_or_fault_of_flag h
  rcases bind_eq_error_iff.1 h with h | ⟨maxErrors, -, h⟩
  · exact told_or_fault_of_limit (by simp) h
  rcases bind_eq_error_iff.1 h with h | ⟨maxWarnings, -, h⟩
  · exact told_or_fault_of_limit (by simp) h
  rcases bind_eq_error_iff.1 h with h | ⟨sources, -, h⟩
  · exact .inr (fault_of_items (by simp) (by simp [itemsOf, Value.IsText]) h)
  rcases bind_eq_error_iff.1 h with h | ⟨classpath, -, h⟩
  · exact .inr (fault_of_items (by simp) (by simp [itemsOf]) h)
  rcases bind_eq_error_iff.1 h with h | ⟨version, -, h⟩
  · exact .inr (fault_of_version h)
  -- The patterns are compiled last.
  rcases bind_eq_error_iff.1 h with h | ⟨config, -, h⟩
  · exact told_or_fault_of_patterns (by simp) (map_eq_error_iff.1 h)
  · exact told_or_fault_of_patterns (by simp) (map_eq_error_iff.1 h)

/-- What the user is not told of is a value that cannot be used. -/
theorem fault_of_ofSettings (h : Config.ofSettings settings base = .error f)
    (hreported : f.isReported = false) : SettingFault settings f := by
  refine (told_or_fault_of_ofSettings h).resolve_left ?_
  rintro ⟨e, rfl⟩
  cases hreported

/-! ## Selecting sources -/

variable {c : Config} {w : Workspace}

/-- Looking for patterns in a name fails only at one that is none. -/
theorem anyOccurs_eq_error {ps : List ClassPattern} {name : String}
    (h : anyOccurs ps name = .error f) : f = .unsupported ∧ ∃ v, .stray v ∈ ps := by
  induction ps with
  | nil => cases h
  | cons p ps ih =>
    cases p with
    | compiled p =>
      rw [anyOccurs] at h
      split at h
      · cases h
      · obtain ⟨hf, v, hv⟩ := ih h
        exact ⟨hf, v, List.mem_cons_of_mem _ hv⟩
    | stray v =>
      cases h
      exact ⟨rfl, v, List.mem_cons_self⟩

namespace Config

/-- So choosing a class fails only for such a pattern. -/
theorem chooses_eq_error {name : String} (h : c.chooses name = .error f) :
    f = .unsupported ∧ ∃ v, .stray v ∈ c.includes ++ c.excludes := by
  have hexcluded (h : (anyOccurs c.excludes name).map (!·) = .error f) :
      f = .unsupported ∧ ∃ v, .stray v ∈ c.includes ++ c.excludes := by
    obtain ⟨hf, v, hv⟩ := anyOccurs_eq_error (map_eq_error_iff.1 h)
    exact ⟨hf, v, List.mem_append_right _ hv⟩
  rw [chooses] at h
  split at h
  · exact hexcluded h
  · rcases bind_eq_error_iff.1 h with h | ⟨included, -, h⟩
    · obtain ⟨hf, v, hv⟩ := anyOccurs_eq_error h
      exact ⟨hf, v, List.mem_append_left _ hv⟩
    · cases included with
      | true => exact hexcluded h
      | false => cases h

/-- Selecting sources fails, and the user is not told, only because of a pattern that is
    none. -/
theorem selectSources_eq_error (h : c.selectSources w = .error f)
    (hreported : f.isReported = false) :
    f = .unsupported ∧ ∃ v, .stray v ∈ c.includes ++ c.excludes := by
  -- Looking at directories and listing them fail with errors that the user is told.
  obtain ⟨directory, -, h⟩ := exists_of_mapM_eq_error (map_eq_error_iff.1 h)
  rw [selectIn] at h
  split at h
  · rename_i e he
    cases h
    cases e with
    | os e => cases hreported
    | nulInPath => exact absurd he Workspace.isDirectory_ne_nulInPath
  · cases h
  · rename_i hanswer
    obtain ⟨loc, hi⟩ := Workspace.isDirectory_eq_true_iff.1 hanswer
    split at h
    · rename_i hrefused
      cases h
      obtain ⟨names, rfl⟩ := Workspace.findSuffixed_eq_error
        (Workspace.inspect_eq_ok_iff.1 hi).1 hrefused
      cases hreported
    · rename_i hfound
      obtain ⟨source, hsource, h⟩ := exists_of_filterM_eq_error h
      rw [chosenIn] at h
      split at h
      · cases h
      · obtain ⟨name, hname⟩ := exists_className (Workspace.lists_of_findSuffixed hfound) hsource
        rw [hname] at h
        exact chooses_eq_error h

end Config

/-! ## Reports -/

variable {data : Path} {tools : Tools} {s : Session}

/-- A report is in an encoding that cannot be read, or a line or a column in it is no
    number. -/
inductive ReportFault (bytes : ByteArray) : Failure → Prop
  | encoding {f : Failure} (h : Xml.EncodingFault bytes f) : ReportFault bytes f
  | number {root e : Xml.Element} {f : Failure} (read : Xml.readDocument bytes = .ok root)
    (mem : e ∈ violationsIn root.children) (h : Misnumbers e f) : ReportFault bytes f

/-- A report that cannot be read, and the user is not told, is at fault. -/
theorem fault_of_ofBytes (h : Result.ofBytes data bytes = .error f)
    (hreported : f.isReported = false) : ReportFault bytes f := by
  rw [Result.ofBytes] at h
  cases hread : Xml.readDocument bytes with
  | error e =>
    rw [hread] at h
    cases h
    cases e with
    | malformed fault position => cases hreported
    | encoding name e => exact .encoding (.intro hread)
  | ok root =>
    simp only [hread] at h
    obtain ⟨e, he, hnumber⟩ := ofReport_eq_error h
    exact .number hread he hnumber

/-! ## Runs -/

namespace Config

open Work (FaultsBy)

/-- Something is wrong with what a run is given. -/
inductive RunFault (c : Config) (tools : Tools) (w : Workspace) : Failure → Prop
  | reportDir (h : w.HoldsNul c.reportDir) : RunFault c tools w (.file .nulInPath)
  | dataFile (h : w.HoldsNul c.dataFile) : RunFault c tools w (.file .nulInPath)
  /-- A class cannot be chosen by what is no pattern. -/
  | stray {v : Value} (h : .stray v ∈ c.includes ++ c.excludes) : RunFault c tools w .unsupported
  | report {command : List String} {bytes : ByteArray} {status : Int} {errors : String}
    {f : Failure} (ended : tools.runner command = .ended (some bytes) status errors)
    (h : ReportFault bytes f) : RunFault c tools w f
  /-- The command has failed in such a way. -/
  | command {command : List String} {report : Option ByteArray} {f : Failure}
    (failed : tools.runner command = .failed report f) : RunFault c tools w f
  /-- The engine has, for the stylesheet. -/
  | engine {data style : Path} {w' : Workspace} {f : Failure} (given : c.style = some style)
    (failed : (tools.engine w' data style).1 = .failed f) : RunFault c tools w f

/-- A NUL in a path of the configuration is a fault, also seen from later files. -/
theorem runFault_of_reportDir (hhere : s.workspace.here = w.here)
    (h : s.workspace.HoldsNul c.reportDir) : c.RunFault tools w (.file .nulInPath) :=
  .reportDir ((Workspace.holdsNul_congr hhere).1 h)

theorem runFault_of_dataFile (hhere : s.workspace.here = w.here)
    (h : s.workspace.HoldsNul c.dataFile) : c.RunFault tools w (.file .nulInPath) :=
  .dataFile ((Workspace.holdsNul_congr hhere).1 h)

theorem faultsBy_reportsHere (hhere : s.workspace.here = w.here) :
    FaultsBy (c.RunFault tools w) c.reportsHere s :=
  Work.faultsBy_inspect fun h =>
    runFault_of_reportDir hhere (.of_mem (Workspace.resolve_eq_nulInPath h))

/-- A run makes the directory of the reports, … -/
theorem faultsBy_makeReportDir (hhere : s.workspace.here = w.here) :
    FaultsBy (c.RunFault tools w) c.makeReportDir s := by
  refine (faultsBy_reportsHere hhere).bind fun reports s' h _ => ?_
  obtain ⟨hreports, rfl⟩ := Work.eq_of_runIn_inspect h
  exact Work.faultsBy_makeDirectories fun h =>
    runFault_of_reportDir hhere (h.of_resolve hreports)

/-- … and removes the report of an earlier run. -/
theorem faultsBy_removeOldReport (hhere : s.workspace.here = w.here) :
    FaultsBy (c.RunFault tools w) c.removeOldReport s := by
  refine .bind (Work.faultsBy_makeDirectories fun h =>
    runFault_of_dataFile hhere h.of_parent) fun _ s₁ _ h₁ => ?_
  refine (Work.faultsBy_pathExists c.dataFile s₁).bind fun found s₂ _ h₂ => ?_
  cases found with
  | false => exact Work.faultsBy_pure () s₂
  | true =>
    exact Work.faultsBy_change (fun w hw => Workspace.here_of_removeFile hw) fun h =>
      runFault_of_dataFile (h₂.trans (h₁.trans hhere))
        (.of_mem (Workspace.removeFile_eq_nulInPath h))

/-- A report that is read is one that a command has written. -/
theorem faultsBy_loadReport (hhere : s.workspace.here = w.here)
    (hread : ∀ bytes, s.workspace.readFile c.dataFile = .ok bytes →
      ∃ command status errors, tools.runner command = .ended (some bytes) status errors) :
    FaultsBy (c.RunFault tools w) (loadReport c.dataFile) s := by
  refine (Work.faultsBy_get s).bind fun session s' hs _ => ?_
  cases hs
  split
  · rename_i bytes hbytes
    obtain ⟨command, status, errors, hended⟩ := hread bytes hbytes
    exact Work.faultsBy_ofExcept
      (fun f hf hreported => .report hended (fault_of_ofBytes hf hreported)) s
  · exact Work.faultsBy_throw rfl s
  · rename_i e _ hfile
    cases e with
    | os e => exact Work.faultsBy_throw rfl s
    | nulInPath =>
      refine Work.faultsBy_ofFileError (r := .error .nulInPath) (fun _ => ?_) s
      exact runFault_of_dataFile hhere (.of_mem (Workspace.readFile_eq_nulInPath hfile))

/-- The user is told why there is no command. -/
theorem command_eq_error {sources : List Path} (h : c.command sources = .error f) :
    f.isReported = true := by
  rw [command] at h
  split at h
  · cases h
    rfl
  · split at h
    · cases h
      rw [withoutClasspath]
      split <;> rfl
    · cases h

/-- Writing a report fails only for its path. -/
theorem faultsBy_writeReport (hhere : s.workspace.here = w.here) (report : Option ByteArray) :
    FaultsBy (c.RunFault tools w) (c.writeReport report) s := by
  cases report with
  | none => exact Work.faultsBy_pure () s
  | some bytes =>
    refine (Work.faultsBy_get s).bind fun session s' hs _ => ?_
    cases hs
    split
    · rename_i w' hw'
      exact Work.faultsBy_modify
        (Workspace.here_of_withFiles (Workspace.withFiles_writeFile hw'))
    · exact Work.faultsBy_throw rfl s
    · rename_i e _ hwrite
      cases e with
      | os e => exact Work.faultsBy_throw rfl s
      | nulInPath =>
        refine Work.faultsBy_ofFileError (r := .error .nulInPath) (fun _ => ?_) s
        exact runFault_of_dataFile hhere (.of_mem (Workspace.writeFile_eq_nulInPath hwrite))

/-- If there was no report, the one that is there is the one that has been written. -/
theorem report_of_writeReport {report : Option ByteArray} {s' : Session}
    (h : (c.writeReport report).runIn s = (.ok (), s'))
    (hnone : s.workspace.find? c.dataFile = .ok none)
    (hread : s'.workspace.readFile c.dataFile = .ok bytes) : report = some bytes := by
  cases report with
  | none =>
    cases h
    obtain ⟨l, hl⟩ := Workspace.inspect_of_readFile hread
    rw [Workspace.find?_of_inspect hl] at hnone
    cases hnone
  | some written =>
    simp only [writeReport, Work.runIn_bind, Work.runIn_get] at h
    split at h
    · rename_i w' hwrite
      cases h
      obtain ⟨l, hl⟩ := Workspace.inspect_writeFile hwrite
      have hsame := (Workspace.readFile_of_inspect hl).symm.trans hread
      rw [Except.ok.inj hsame]
    · cases h
    · cases h

/-- The user is told of errors of the system, and other failures are those of the command. -/
theorem fault_of_runFailure {command : List String} {report : Option ByteArray} {f f' : Failure}
    (hfailed : tools.runner command = .failed report f)
    (h : (.error (runFailure f) : Except Failure Result) = .error f')
    (hreported : f'.isReported = false) : c.RunFault tools w f' := by
  cases h
  unfold runFailure at hreported ⊢
  split
  · cases hreported
  · exact .command hfailed

/-- Where no report was found, a run reads the one that its command has written, … -/
theorem faultsBy_runOn {sources : List Path} (hhere : s.workspace.here = w.here)
    (hnone : s.workspace.find? c.dataFile = .ok none) :
    FaultsBy (c.RunFault tools w) (c.runOn tools.runner sources) s := by
  refine .bind (Work.faultsBy_ofExcept (fun f hf hreported => ?_) s) fun command s₁ h₁ _ => ?_
  · rw [id, command_eq_error hf] at hreported
    cases hreported
  obtain ⟨-, rfl⟩ := Work.eq_of_runIn_ofExcept h₁
  refine (Work.faultsBy_start command s₁).bind fun _ s₂ h₂ hhere₂ => ?_
  cases h₂
  -- A command may have written its report before it fails.
  cases hended : tools.runner command with
  | failed report f =>
    refine .bind (faultsBy_writeReport (hhere₂.trans hhere) report) fun _ s₃ _ _ => ?_
    exact .of_runIn rfl fun f' hf' hreported => fault_of_runFailure hended hf' hreported
  | ended report status errors =>
    refine .bind (faultsBy_writeReport (hhere₂.trans hhere) report) fun _ s₃ h₃ hhere₃ => ?_
    refine (Work.faultsBy_pathExists c.dataFile s₃).bind fun found s₄ h₄ hhere₄ => ?_
    obtain ⟨-, rfl⟩ := Work.eq_of_runIn_inspect h₄
    cases found with
    | false => exact Work.faultsBy_throw rfl s₄
    | true =>
      refine faultsBy_loadReport (hhere₃.trans hhere) fun bytes hbytes => ?_
      -- There was no report before, so the one that is read is that of the command.
      rw [report_of_writeReport h₃ hnone hbytes] at hended
      exact ⟨command, status, errors, hended⟩

/-- … or writes the report of nothing. -/
theorem faultsBy_reportNothing (hhere : s.workspace.here = w.here) :
    FaultsBy (c.RunFault tools w) c.reportNothing s :=
  (Work.faultsBy_warn _ s).bind fun _ _ _ h₁ =>
    .bind (Work.faultsBy_writeText (fun h => runFault_of_dataFile (h₁.trans hhere) h) _)
      fun _ s₂ _ _ => Work.faultsBy_pure _ s₂

/-- What is found of a report when the sources have been chosen is that of this run. -/
theorem faultsBy_report (hhere : s.workspace.here = w.here)
    (hnone : s.workspace.find? c.dataFile = .ok none) :
    FaultsBy (c.RunFault tools w) (c.report tools.runner) s := by
  refine (Work.faultsBy_print _ s).bind fun _ s₁ h₁ _ => ?_
  cases h₁
  refine (Work.faultsBy_get _).bind fun session s₂ h₂ _ => ?_
  cases h₂
  refine .bind (Work.faultsBy_ofExcept (fun f hf hreported => ?_) _) fun sources s₃ h₃ _ => ?_
  · obtain ⟨rfl, v, hv⟩ := selectSources_eq_error hf hreported
    exact .stray hv
  · obtain ⟨-, rfl⟩ := Work.eq_of_runIn_ofExcept h₃
    split
    · exact faultsBy_reportNothing hhere
    · exact faultsBy_runOn hhere hnone

/-- A run leaves no other failure untold than by its faults. -/
theorem faultsBy_createReport (hhere : s.workspace.here = w.here) :
    FaultsBy (c.RunFault tools w) (c.createReport tools.runner) s := by
  refine .bind ((faultsBy_makeReportDir hhere).bind fun _ s₁ _ h₁ =>
    faultsBy_removeOldReport (h₁.trans hhere)) fun _ s₂ h₂ hhere₂ =>
      faultsBy_report (hhere₂.trans hhere) ?_
  -- Once the preparations have succeeded, there is no earlier report.
  obtain ⟨_, s₁, -, h₂⟩ := Work.runIn_bind_eq_ok h₂
  rcases (removeOldReport_cases c s₁).2 with ⟨e, he⟩ | ⟨-, hnone⟩
  · rw [h₂] at he
    cases he
  · rwa [h₂] at hnone

/-- The user is told if a page cannot be made by the stylesheet, unless the engine fails in
    another way. -/
theorem fault_of_rendering {style : Path} {w' : Workspace} (hstyle : c.style = some style)
    (h : (tools.engine w' c.dataFile style).1.content c.dataFile style = .error f)
    (hreported : f.isReported = false) : c.RunFault tools w f := by
  unfold Rendering.content at h
  split at h
  · cases h
  · cases h
    cases hreported
  · cases h
    cases hreported
  · rename_i hfailed
    cases h
    exact .engine hstyle hfailed

/-- What can be shown without a stylesheet is shown. -/
theorem faultsBy_pageContent {result : Result} (c : Config) (hresult : result.isShowable)
    (s : Session) : FaultsBy (c.RunFault tools w) (c.pageContent tools.engine (some result)) s := by
  unfold pageContent
  split
  · rename_i style _ hstyle
    constructor
    · rw [runIn_renderPage]
      rfl
    · rw [runIn_renderPage]
      exact fun f => fault_of_rendering hstyle
  · rename_i hsome
    cases hsome
    refine Work.faultsBy_ofExcept (fun f hf _ => ?_) s
    rw [Result.page, if_pos hresult] at hf
    cases hf
  · rename_i hsome
    cases hsome

/-- The page brings no NUL into its path. -/
theorem holdsNul_of_page (h : w.HoldsNul ⟨c.reportDir.anchor, c.reportDir.parts ++ [pageName]⟩) :
    w.HoldsNul c.reportDir := by
  obtain ⟨name, hname, hnul⟩ := h
  refine ⟨name, ?_, hnul⟩
  rcases List.mem_append.1 hname with hstart | hparts
  · exact List.mem_append_left _ hstart
  · rcases List.mem_append.1 hparts with hparts | hpage
    · exact List.mem_append_right _ hparts
    · rw [List.mem_singleton.1 hpage] at hnul
      exact absurd hnul (by decide)

/-- The page of a result faults by the path of the reports and by the engine. -/
theorem faultsBy_createPage {result : Result} (hhere : s.workspace.here = w.here)
    (hresult : result.isShowable) :
    FaultsBy (c.RunFault tools w) (c.createPage tools.engine (some result)) s := by
  rw [createPage_eq]
  refine .bind (Work.faultsBy_inspect fun h => ?_) fun page s₁ h₁ _ => ?_
  · rw [page_eq] at h
    have hreports : s.workspace.HoldsNul c.reportDir :=
      holdsNul_of_page (.of_mem (Workspace.resolve_eq_nulInPath h))
    exact runFault_of_reportDir hhere hreports
  obtain ⟨hpage, rfl⟩ := Work.eq_of_runIn_inspect h₁
  rw [page_eq] at hpage
  have hnul {s' : Session} (hs' : s'.workspace.here = s₁.workspace.here)
      (h : s'.workspace.HoldsNul page) : c.RunFault tools w (.file .nulInPath) := by
    rw [Workspace.holdsNul_congr hs'] at h
    exact runFault_of_reportDir hhere (holdsNul_of_page (h.of_resolve hpage))
  refine (Work.faultsBy_print _ s₁).bind fun _ s₂ _ h₂ => ?_
  refine (c.faultsBy_pageContent hresult s₂).bind fun content s₃ _ h₃ => ?_
  refine .bind (Work.faultsBy_makeDirectories fun h => hnul (h₃.trans h₂) h.of_parent)
    fun _ s₄ _ h₄ => ?_
  refine .bind (Work.faultsBy_writeText (fun h => hnul ?_ h) content)
    fun _ s₅ _ _ => Work.faultsBy_pure page s₅
  exact h₄.trans (h₃.trans h₂)

/-- The user is told that the limits are exceeded. -/
theorem faultsBy_checkLimits (hhere : s.workspace.here = w.here) (result : Result) :
    FaultsBy (c.RunFault tools w) (c.checkLimits result) s := by
  rw [checkLimits]
  split
  · refine (faultsBy_reportsHere hhere).bind fun reports s' _ _ => ?_
    split
    · exact Work.faultsBy_throw rfl s'
    · exact Work.faultsBy_warn _ s'
  · exact Work.faultsBy_pure () s

/-- Removing the reports faults by their paths only. -/
theorem faultsBy_clean (hhere : s.workspace.here = w.here) :
    FaultsBy (c.RunFault tools w) c.clean s := by
  refine (faultsBy_reportsHere hhere).bind fun reports s₁ h₁ _ => ?_
  obtain ⟨hreports, rfl⟩ := Work.eq_of_runIn_inspect h₁
  refine (Work.faultsBy_pathExists reports s₁).bind fun found s₂ h₂ _ => ?_
  obtain ⟨-, rfl⟩ := Work.eq_of_runIn_inspect h₂
  have hdata {s' : Session} (h : s'.workspace.here = s₂.workspace.here) :
      FaultsBy (c.RunFault tools w) (Work.removeFile c.dataFile) s' :=
    Work.faultsBy_removeFile fun hnul => runFault_of_dataFile (h.trans hhere) hnul
  cases found with
  | false => exact hdata rfl
  | true =>
    refine .bind (Work.faultsBy_change (fun w' hw' => Workspace.here_of_removeTree hw')
      fun hnul => ?_) fun _ s₃ _ h₃ => hdata h₃
    exact runFault_of_reportDir hhere
      ((Workspace.HoldsNul.of_mem (Workspace.removeTree_eq_nulInPath hnul)).of_resolve hreports)

end Config

end Checkstyle

end JavaBuild
