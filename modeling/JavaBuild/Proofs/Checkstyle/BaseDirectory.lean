import JavaBuild.Checkstyle.Settings
import JavaBuild.Proofs.Path
import JavaBuild.Proofs.Result

/-!
# Settings of a project elsewhere

The settings of a project are read as if its directory were the working directory, and then all
paths are taken as seen from there (`Config.seenFrom`): a project in another directory has the
same configuration but for its paths, and none if the settings give none
(`Config.ofSettings_seenFrom`). In the same way, a project's own directory may be seen from a
directory around it (`Config.ofSettings_join`).
-/

namespace JavaBuild.Checkstyle

/-! ## Single values -/

variable (a b base : Path)

theorem pathOf_join (v : Value) : pathOf (a.join b) v = a.join <$> pathOf b v := by
  cases v with
  | text s => exact congrArg Except.ok (a.join_assoc b (.ofString s))
  | _ => rfl

/-- A path that is not given is given from nowhere. -/
theorem pathOf?_join (v : Value) : pathOf? (a.join b) v = Option.map a.join <$> pathOf? b v := by
  rw [pathOf?, pathOf?, pathOf_join]
  split
  · cases pathOf b v <;> rfl
  · rfl

theorem mapM_pathOf_join (items : List Value) :
    items.mapM (pathOf (a.join b)) = List.map a.join <$> items.mapM (pathOf b) := by
  rw [map_mapM]
  exact congrArg items.mapM (funext (pathOf_join a b))

/-! ## Configurations -/

namespace Config

/-- A configuration whose paths are taken as seen from a directory. -/
def seenFrom (c : Config) : Config :=
  { c with
    reportDir := base.join c.reportDir
    dataFile := base.join c.dataFile
    rules := c.rules.map base.join
    style := c.style.map base.join
    sources := c.sources.map base.join
    classpath := c.classpath.map base.join }

variable (c : Config) (patterns : List GivenPattern)

theorem addIncludes_seenFrom :
    (c.seenFrom base).addIncludes patterns = seenFrom base <$> c.addIncludes patterns := by
  rw [addIncludes, addIncludes]
  cases patterns.mapM GivenPattern.compile <;> rfl

theorem addExcludes_seenFrom :
    (c.seenFrom base).addExcludes patterns = seenFrom base <$> c.addExcludes patterns := by
  rw [addExcludes, addExcludes]
  cases patterns.mapM GivenPattern.compile <;> rfl

/-- The settings of a project in a directory that is itself seen from another one. -/
theorem ofSettings_join (settings : Toml.Fields) :
    ofSettings settings (a.join b) = seenFrom a <$> ofSettings settings b := by
  -- Each path is read as seen from `b` and then joined to `a`, so these are the parts of a
  -- configuration that is seen from `a`.
  have hparts (reportDir dataFile : Path) (rules style : Option Path) (strict : Bool)
      (errors warnings : Int) (sources : List Path) (includes excludes : List ClassPattern)
      (classpath : List Path) (version : String) :
      (⟨a.join reportDir, a.join dataFile, rules.map a.join, style.map a.join, strict, errors,
        warnings, sources.map a.join, includes, excludes, classpath.map a.join, version⟩ : Config) =
      seenFrom a ⟨reportDir, dataFile, rules, style, strict, errors, warnings, sources, includes,
        excludes, classpath, version⟩ := rfl
  simp only [ofSettings, pathOf_join, pathOf?_join, mapM_pathOf_join, hparts,
    addIncludes_seenFrom, addExcludes_seenFrom, bind_map_left, map_bind]

/-- The settings of a project are those of the working directory with all paths seen from the
    project's directory, from where an absolute path is the same. -/
theorem ofSettings_seenFrom (settings : Toml.Fields) (base : Path) :
    ((∃ c, ofSettings settings base = .ok c) ↔
      ∃ c, ofSettings settings (.ofString ".") = .ok c) ∧
    ofSettings settings base = (ofSettings settings (.ofString ".")).map (seenFrom base) ∧
    ∀ p : Path, p.anchor ≠ .relative → base.join p = p := by
  have hhere : Path.ofString "." = .here := by decide
  have hsame : ofSettings settings base = (ofSettings settings (.ofString ".")).map
      (seenFrom base) := by
    have hjoin := ofSettings_join base .here settings
    rw [Path.join_here] at hjoin
    rw [hhere]
    exact hjoin
  refine ⟨?_, hsame, fun p => Path.join_of_ne_relative base⟩
  rw [hsame]
  simp only [map_eq_ok_iff]
  exact ⟨fun ⟨_, c, hc, _⟩ => ⟨c, hc⟩, fun ⟨c, hc⟩ => ⟨_, c, hc, rfl⟩⟩

/-- The settings of a project with sources of its own and some that are elsewhere. -/
def projectSettings : Toml.Fields :=
  [("config", .text "./etc/rules.xml"), ("style", .text ""),
    ("sources", .list [.text "src/", .text "/gen//java"])]

/-- Only the paths of the project itself are seen from its directory. -/
theorem ofSettings_seenFrom_projectSettings : (Path.ofString "/gen//java").anchor ≠ .relative ∧
    (Path.ofString "core").join (.ofString "/gen//java") = ⟨.absolute, ["gen", "java"]⟩ ∧
    ∃ c, ofSettings projectSettings (.ofString "core") = .ok c ∧
      c.rules = some ⟨.relative, ["core", "etc", "rules.xml"]⟩ ∧ c.style = none ∧
      c.sources = [⟨.relative, ["core", "src"]⟩, ⟨.absolute, ["gen", "java"]⟩] := by
  obtain ⟨hgiven, hsame, habsolute⟩ := ofSettings_seenFrom projectSettings (.ofString "core")
  have hanchor : (Path.ofString "/gen//java").anchor ≠ .relative := by decide
  refine ⟨hanchor, (habsolute _ hanchor).trans (by decide), ?_⟩
  obtain ⟨c, hc⟩ := hgiven.2 ⟨_, rfl⟩
  rw [hsame] at hc
  cases hc
  exact ⟨_, hsame, by decide, by decide, by decide⟩

end Config

end JavaBuild.Checkstyle
