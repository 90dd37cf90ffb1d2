import JavaBuild.Proofs.Checkstyle.ClassPattern
import JavaBuild.Proofs.Checkstyle.Fault

/-!
# Configurations from settings

A table of settings gives a configuration just if each part of it can be read from its setting
(`Config.ofSettings_eq_ok_iff`), so none of the values is one of those that cannot be used
(`Config.ReadFrom.not_settingFault`). Values that are no text are taken for patterns, too. With
texts only, selecting sources fails for no other reason than a path that is too long; and
unless there is a value that cannot be used, the user is told of a table that gives no
configuration (`Config.ofSettings_tells`).
-/

namespace JavaBuild.Checkstyle

variable {settings : Toml.Fields} {base p : Path} {key : String} {v item default : Value}
  {f : Failure} {c : Config}

/-! ## Single values -/

theorem setting_of_found (h : Value.field? settings key = some v) (default : Value) :
    setting settings key default = v := by
  rw [setting, h, Option.getD_some]

theorem isText_of_pathOf_eq_ok (h : pathOf base v = .ok p) : v.IsText := by
  unfold pathOf at h
  split at h
  · exact ⟨_, rfl⟩
  · cases h

theorem isText_of_pathOf?_eq_ok {p : Option Path} (given : v.isGiven = true)
    (h : pathOf? base v = .ok p) : v.IsText := by
  rw [pathOf?, if_pos given] at h
  obtain ⟨q, hq, -⟩ := map_eq_ok_iff.1 h
  exact isText_of_pathOf_eq_ok hq

/-- Values that name paths are texts. -/
theorem isText_of_mapM_pathOf {ps : List Path} {items : List Value}
    (h : items.mapM (pathOf base) = .ok ps) : ∀ item ∈ items, item.IsText := by
  intro item hitem
  obtain ⟨p, hp⟩ := (mapM_eq_ok h).1 item hitem
  exact isText_of_pathOf_eq_ok hp

/-- A value that is compiled is a pattern just if it is a text. -/
theorem isCompiled_iff_isText {p : ClassPattern} (h : GivenPattern.compile (.value item) = .ok p) :
    p.IsCompiled ↔ item.IsText := by
  cases GivenPattern.compile_eq_ok_iff.1 h with
  | text _ => exact iff_of_true trivial ⟨_, rfl⟩
  | stray hstray => exact iff_of_false id (not_exists.2 hstray)

/-- All texts among the values that are compiled are patterns. -/
theorem ofString_ne_error {text : String} {ps : List ClassPattern}
    (h : (givenPatterns settings key).mapM GivenPattern.compile = .ok ps)
    (found : Value.field? settings key = some v) (hmem : .text text ∈ itemsOf v)
    (e : Pattern.PatternError) : Pattern.ofString text false ≠ .error e := by
  intro hpattern
  rw [givenPatterns, setting_of_found found] at h
  have hkept := (mapM_eq_ok h).1 _ (List.mem_map_of_mem hmem)
  exact GivenPattern.exists_compile_eq_ok_iff.1 hkept ⟨text, rfl, by simp [hpattern]⟩

/-- An infinite number is no limit. -/
theorem numberOf_ne_ok {x : Decimal.Binary64} {n : Int} (h : x.magnitude = .infinite) :
    numberOf key (.float x) ≠ .ok n := by
  have htruncate : x.truncate? = none := by rw [Decimal.Binary64.truncate?, h]
  intro hn
  simp only [numberOf, htruncate, h] at hn
  cases hn

theorem isShowable_of_versionOf {version : String} (h : versionOf v = .ok version) :
    v.isShowable := by
  rw [versionOf] at h
  split at h
  · assumption
  · cases h

/-- Flags can be shown. -/
theorem isShowable_of_flagOf {b : Bool} (h : flagOf key v = .ok b) : v.isShowable := by
  unfold flagOf at h
  split at h
  · rfl
  · rfl
  · cases h

/-- So can limits, but for whole numbers, which are taken as they are. -/
theorem isShowable_of_numberOf {n : Int} (h : numberOf key v = .ok n) (kind : ∀ n, v ≠ .int n) :
    v.isShowable := by
  cases v with
  | int m => exact absurd rfl (kind m)
  | list items => cases h
  | tuple items => cases h
  | table fields => cases h
  | providers members => cases h
  | _ => rfl

/-! ## Tables -/

namespace Config

/-- Each part of a configuration is what its setting stands for. -/
structure ReadFrom (settings : Toml.Fields) (base : Path) (c : Config) : Prop where
  reportDir : pathOf base (setting settings "report-dir"
    (.text ({} : Config).reportDir.toString)) = .ok c.reportDir
  dataFile : pathOf base (setting settings "data-file"
    (.text ({} : Config).dataFile.toString)) = .ok c.dataFile
  rules : pathOf? base (setting settings "config" .null) = .ok c.rules
  style : pathOf? base (setting settings "style" .null) = .ok c.style
  failsOnViolation : flagOf "fail-on-violation"
    (setting settings "fail-on-violation" (.bool true)) = .ok c.failsOnViolation
  maxErrors : numberOf "max-errors" (setting settings "max-errors" (.int 0)) = .ok c.maxErrors
  maxWarnings :
    numberOf "max-warnings" (setting settings "max-warnings" (.int 0)) = .ok c.maxWarnings
  sources : (itemsOf (setting settings "sources" (.text "src/main/java"))).mapM (pathOf base) =
    .ok c.sources
  classpath : (itemsOf (setting settings "classpath" .null)).mapM (pathOf base) = .ok c.classpath
  version : versionOf (setting settings "version" (.text expectedVersion)) = .ok c.version
  includes : (givenPatterns settings "include").mapM GivenPattern.compile = .ok c.includes
  excludes : (givenPatterns settings "exclude").mapM GivenPattern.compile = .ok c.excludes

theorem ofSettings_eq_ok_iff : ofSettings settings base = .ok c ↔ ReadFrom settings base c := by
  unfold ofSettings
  simp only [bind_eq_ok_iff, addIncludes, addExcludes, map_eq_ok_iff]
  constructor
  · rintro ⟨reportDir, hreport, dataFile, hdata, rules, hrules, style, hstyle, strict, hstrict,
      errors, herrors, warnings, hwarnings, sources, hsources, classpath, hclasspath, version,
      hversion, _, ⟨includes, hincludes, rfl⟩, excludes, hexcludes, rfl⟩
    exact ⟨hreport, hdata, hrules, hstyle, hstrict, herrors, hwarnings, hsources, hclasspath,
      hversion, hincludes, hexcludes⟩
  · intro h
    exact ⟨_, h.reportDir, _, h.dataFile, _, h.rules, _, h.style, _, h.failsOnViolation, _,
      h.maxErrors, _, h.maxWarnings, _, h.sources, _, h.classpath, _, h.version, _,
      ⟨_, h.includes, rfl⟩, _, h.excludes, rfl⟩

theorem ReadFrom.patterns (h : ReadFrom settings base c) (key_mem : key ∈ ["include", "exclude"]) :
    ∃ ps, (givenPatterns settings key).mapM GivenPattern.compile = .ok ps := by
  rcases List.mem_pair.1 key_mem with rfl | rfl
  · exact ⟨_, h.includes⟩
  · exact ⟨_, h.excludes⟩

/-- Of a table that gives a configuration, all values can be used. -/
theorem ReadFrom.not_settingFault (h : ReadFrom settings base c) : ¬SettingFault settings f := by
  intro hfault
  -- Each kind of fault contradicts the fields that are read from its keys.
  cases hfault with
  | @place key v key_mem found kind =>
    refine kind ?_
    rcases List.mem_pair.1 key_mem with rfl | rfl
    · exact isText_of_pathOf_eq_ok (setting_of_found found _ ▸ h.reportDir)
    · exact isText_of_pathOf_eq_ok (setting_of_found found _ ▸ h.dataFile)
  | @file key v key_mem found given kind =>
    refine kind ?_
    rcases List.mem_pair.1 key_mem with rfl | rfl
    · exact isText_of_pathOf?_eq_ok given (setting_of_found found _ ▸ h.rules)
    · exact isText_of_pathOf?_eq_ok given (setting_of_found found _ ▸ h.style)
  | @item key v item key_mem found item_mem kind =>
    refine kind ?_
    rcases List.mem_pair.1 key_mem with rfl | rfl
    · exact isText_of_mapM_pathOf (setting_of_found found _ ▸ h.sources) item item_mem
    · exact isText_of_mapM_pathOf (setting_of_found found _ ▸ h.classpath) item item_mem
  | @limit key x key_mem found infinite =>
    rcases List.mem_pair.1 key_mem with rfl | rfl
    · exact numberOf_ne_ok infinite (setting_of_found found _ ▸ h.maxErrors)
    · exact numberOf_ne_ok infinite (setting_of_found found _ ▸ h.maxWarnings)
  | @digits key v key_mem found unshowable =>
    refine Bool.false_ne_true (unshowable.symm.trans ?_)
    rcases List.mem_pair.1 key_mem with rfl | rfl
    · exact isShowable_of_versionOf (setting_of_found found _ ▸ h.version)
    · exact isShowable_of_flagOf (setting_of_found found _ ▸ h.failsOnViolation)
  | @limitDigits key v key_mem found kind unshowable =>
    refine Bool.false_ne_true (unshowable.symm.trans ?_)
    rcases List.mem_pair.1 key_mem with rfl | rfl
    · exact isShowable_of_numberOf (setting_of_found found _ ▸ h.maxErrors) kind
    · exact isShowable_of_numberOf (setting_of_found found _ ▸ h.maxWarnings) kind
  | @pattern key text v e key_mem found item_mem refused =>
    obtain ⟨ps, hps⟩ := h.patterns key_mem
    exact ofString_ne_error hps found item_mem _ refused

/-- All patterns that a table gives are texts. -/
def TextPatterns (settings : Toml.Fields) : Prop :=
  ∀ key ∈ ["include", "exclude"], ∀ item ∈ itemsOf (setting settings key .null), item.IsText

theorem forall_isCompiled_iff {ps : List ClassPattern}
    (h : (givenPatterns settings key).mapM GivenPattern.compile = .ok ps) :
    (∀ p ∈ ps, p.IsCompiled) ↔ ∀ item ∈ itemsOf (setting settings key .null), item.IsText := by
  obtain ⟨hall, hmem⟩ := mapM_eq_ok h
  constructor
  · intro hcompiled item hitem
    have hgiven := List.mem_map_of_mem (f := GivenPattern.value) hitem
    obtain ⟨p, hp⟩ := hall _ hgiven
    exact (isCompiled_iff_isText hp).1 (hcompiled p ((hmem p).2 ⟨_, hgiven, hp⟩))
  · intro htexts p hp
    obtain ⟨given, hgiven, hcompile⟩ := (hmem p).1 hp
    obtain ⟨item, hitem, rfl⟩ := List.mem_map.1 hgiven
    exact (isCompiled_iff_isText hcompile).2 (htexts item hitem)

theorem ReadFrom.compiled_iff (h : ReadFrom settings base c) :
    c.Compiled ↔ TextPatterns settings := by
  rw [Compiled, List.forall_mem_append, forall_isCompiled_iff h.includes,
    forall_isCompiled_iff h.excludes, TextPatterns, List.forall_mem_cons, List.forall_mem_singleton]

/-- Sources can be selected from any files, unless the system refuses one of the directories
    they are in, for its path is too long. -/
def SelectsAnywhere (c : Config) : Prop := ∀ w : Workspace,
  ((∀ d ∈ c.sources, w.Listable d) → ∃ ps, c.selectSources w = .ok ps) ∧
    ((∃ d ∈ c.sources, ¬w.Listable d) →
      ∃ p, c.selectSources w = .error (.file (.on .nameTooLong p)))

theorem Compiled.selectsAnywhere (h : c.Compiled) : c.SelectsAnywhere := fun _ =>
  ⟨fun hlist => ⟨_, selectSources_eq_ok h hlist⟩,
    fun ⟨_, hd, hnot⟩ => selectSources_eq_error_of_not_listable h hd hnot⟩

/-- The configuration of a table is what its settings stand for. A table whose values can all be
    used, its patterns being texts, gives one with compiled patterns, by which sources can be
    selected, or the user is told what is wrong. Only such a table gives such a configuration; and
    a failure that the user is not told of is due to a value that cannot be used. -/
theorem ofSettings_tells (settings : Toml.Fields) (base : Path) :
    (∀ c, ofSettings settings base = .ok c ↔ ReadFrom settings base c) ∧
    ((∀ f, ¬SettingFault settings f) → TextPatterns settings →
      (∃ c, ofSettings settings base = .ok c ∧ c.Compiled ∧ c.SelectsAnywhere) ∨
        ∃ e, ofSettings settings base = .error (.checkstyle e)) ∧
    (∀ c, ofSettings settings base = .ok c →
      (∀ f, ¬SettingFault settings f) ∧ (c.Compiled ↔ TextPatterns settings)) ∧
    ∀ f, ofSettings settings base = .error f →
      (∃ e, f = .checkstyle e) ∨ SettingFault settings f := by
  refine ⟨fun c => ofSettings_eq_ok_iff, fun hfaultless htexts => ?_, fun c h => ?_,
    fun f h => told_or_fault_of_ofSettings h⟩
  · cases h : ofSettings settings base with
    | ok c =>
      have hcompiled := (ofSettings_eq_ok_iff.1 h).compiled_iff.2 htexts
      exact .inl ⟨c, rfl, hcompiled, hcompiled.selectsAnywhere⟩
    | error f =>
      obtain ⟨e, rfl⟩ := (told_or_fault_of_ofSettings h).resolve_right (hfaultless f)
      exact .inr ⟨e, rfl⟩
  · have hread := ofSettings_eq_ok_iff.1 h
    exact ⟨fun f => hread.not_settingFault, hread.compiled_iff⟩

/-- A table whose values are all of other kinds than the parts of a configuration. -/
def sampleSettings : Toml.Fields :=
  [("include", .text "Foo$"), ("max-errors", .text "2"), ("style", .bool false),
    ("version", .list [])]

/-- It gives a configuration all the same. -/
theorem ofSettings_tells_sample :
    (∀ f, ¬SettingFault sampleSettings f) ∧ TextPatterns sampleSettings ∧
    ∃ c, ofSettings sampleSettings .here = .ok c ∧ c.Compiled ∧ c.SelectsAnywhere := by
  obtain ⟨-, hfull, hgiven, -⟩ := ofSettings_tells sampleSettings .here
  obtain ⟨c, hc⟩ : ∃ c, ofSettings sampleSettings .here = .ok c := by decide +kernel
  have htexts : TextPatterns sampleSettings := by
    intro key hkey item hitem
    rcases List.mem_pair.1 hkey with rfl | rfl
    · exact ⟨"Foo$", List.mem_singleton.1 hitem⟩
    · cases hitem
  have hfaultless := (hgiven c hc).1
  refine ⟨hfaultless, htexts, (hfull hfaultless htexts).resolve_right ?_⟩
  rintro ⟨e, he⟩
  cases hc.symm.trans he

/-- The user is not told of a path that is a number. -/
theorem not_forall_ofSettings_told : ¬∀ (settings : Toml.Fields) (base : Path),
    (∃ c, ofSettings settings base = .ok c ∧ c.Compiled) ∨
      ∃ e, ofSettings settings base = .error (.checkstyle e) := by
  intro h
  have hkind : ofSettings [("report-dir", .int 3)] .here = .error .wrongKind := rfl
  rcases h [("report-dir", .int 3)] .here with ⟨c, hc, -⟩ | ⟨e, he⟩
  · cases hkind.symm.trans hc
  · cases hkind.symm.trans he

end Config

end JavaBuild.Checkstyle
