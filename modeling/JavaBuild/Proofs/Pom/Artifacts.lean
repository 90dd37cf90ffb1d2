import JavaBuild.DependencyFile
import JavaBuild.Proofs.FileTree.Access
import JavaBuild.Proofs.Pom.Reference
import JavaBuild.Proofs.Work

/-!
# The artifacts of a project

Each dependency that is asked for yields one artifact, or else one warning, whatever is asked for
and whatever the other dependencies are (`artifacts_accounted`). It yields an artifact if its
version leads to one that is not empty and holds no reference (`resolve_follows`).
-/

namespace JavaBuild.Pom

variable {p : PomProject} {selection : Selection} {d : PomDependency} {ds ds' : List PomDependency}
  {properties : Properties} {name : String} {as as' : List PomArtifact} {ws ws' : List String}

/-! ## What is told -/

/-- Telling the artifacts of a project gives these, with these warnings. -/
def Tells (p : PomProject) (selection : Selection) (as : List PomArtifact)
    (ws : List String) : Prop :=
  ∀ s, (tellArtifacts p selection).runIn s = (.ok as, { s with err := s.err ++ ws })

theorem runIn_tellArtifacts (p : PomProject) (selection : Selection) (s : Session) :
    (tellArtifacts p selection).runIn s =
      (.ok (artifacts p selection).1, { s with err := s.err ++ (artifacts p selection).2 }) := by
  simp only [tellArtifacts, Work.runIn_bind, Work.runIn_forM_warn, Work.runIn_pure]

/-- What is told is what the project comes to. -/
theorem tells_iff : Tells p selection as ws ↔ artifacts p selection = (as, ws) := by
  simp only [Tells, runIn_tellArtifacts]
  constructor
  · intro h
    have hs := h ⟨.holding [], [], [], []⟩
    simp only [Prod.mk.injEq, Except.ok.injEq, Session.mk.injEq, List.nil_append] at hs
    exact Prod.ext hs.1 hs.2.2.2.1
  · intro h s
    rw [h]

/-- A dependency is asked for. -/
structure Selection.AsksFor (selection : Selection) (d : PomDependency) : Prop where
  scope : selection.scopes = [] ∨ d.scope ∈ selection.scopes
  whenOptional : selection.withOptional = true ∨ d.isOptional = false

theorem Selection.asksFor_iff : selection.asksFor d = true ↔ selection.AsksFor d := by
  rw [Selection.asksFor, Bool.and_eq_true, Bool.or_eq_true, Bool.or_eq_true, List.isEmpty_iff,
    List.contains_iff_mem, Bool.not_eq_true']
  exact ⟨fun h => ⟨h.1, h.2⟩, fun h => ⟨h.1, h.2⟩⟩

instance (selection : Selection) : DecidablePred selection.AsksFor := fun _ =>
  decidable_of_iff _ Selection.asksFor_iff

/-- What is told of dependencies is what is told of some, and then of the others. -/
theorem Tells.append (h : Tells { p with dependencies := ds } selection as ws)
    (h' : Tells { p with dependencies := ds' } selection as' ws') :
    Tells { p with dependencies := ds ++ ds' } selection (as ++ as') (ws ++ ws') := by
  simp only [tells_iff, artifacts, Prod.mk.injEq] at h h' ⊢
  simp only [List.filter_append, List.map_append, List.filterMap_append]
  exact ⟨congrArg₂ _ h.1 h'.1, congrArg₂ _ h.2 h'.2⟩

theorem filter_asksFor (hd : selection.AsksFor d) : [d].filter selection.asksFor = [d] := by
  rw [List.filter_singleton, Selection.asksFor_iff.2 hd]
  rfl

/-- Of a dependency that is asked for, either the artifact is told that it stands for, … -/
theorem tells_of_ok {a : PomArtifact} (hd : selection.AsksFor d)
    (h : artifactOf (allProperties p) d = .ok a) :
    Tells { p with dependencies := [d] } selection [a] [] := by
  have hprops : allProperties { p with dependencies := [d] } = allProperties p := rfl
  rw [tells_iff, artifacts, filter_asksFor hd, hprops, List.map_singleton, h]
  rfl

/-- … or that it is left out, … -/
theorem tells_of_error {warning : String} (hd : selection.AsksFor d)
    (h : artifactOf (allProperties p) d = .error warning) :
    Tells { p with dependencies := [d] } selection [] [warning] := by
  have hprops : allProperties { p with dependencies := [d] } = allProperties p := rfl
  rw [tells_iff, artifacts, filter_asksFor hd, hprops, List.map_singleton, h]
  rfl

/-- … and nothing of another one. -/
theorem tells_of_not_asksFor (hd : ¬selection.AsksFor d) :
    Tells { p with dependencies := [d] } selection [] [] := by
  have hd' : selection.asksFor d = false :=
    Bool.eq_false_iff.2 fun h => hd (Selection.asksFor_iff.1 h)
  rw [tells_iff, artifacts, List.filter_singleton, hd']
  rfl

/-- Leaving out what is not asked for is the same as not asking for it. -/
theorem artifacts_eq_of_filter (p : PomProject) (selection : Selection) :
    artifacts p selection =
      artifacts { p with dependencies := p.dependencies.filter selection.AsksFor } {} := by
  have hfilter : p.dependencies.filter selection.asksFor =
      p.dependencies.filter selection.AsksFor :=
    List.filter_congr fun d _ => by rw [Bool.eq_iff_iff, Selection.asksFor_iff, decide_eq_true_iff]
  have hall : (p.dependencies.filter selection.AsksFor).filter ({} : Selection).asksFor =
      p.dependencies.filter selection.AsksFor :=
    List.filter_eq_self.2 fun _ _ => rfl
  have hprops : allProperties { p with dependencies := p.dependencies.filter selection.AsksFor } =
      allProperties p := rfl
  rw [artifacts, artifacts, hfilter, hall, hprops]

/-- Asking for less leaves out artifacts, and moves none. -/
theorem artifacts_sublist (p : PomProject) (selection : Selection) :
    (artifacts p selection).1.Sublist (artifacts p {}).1 := by
  have hall : p.dependencies.filter ({} : Selection).asksFor = p.dependencies :=
    List.filter_eq_self.2 fun _ _ => rfl
  rw [artifacts, artifacts, hall]
  exact (List.filter_sublist.map _).filterMap _

/-! ## Versions -/

/-- A version can be used if it is not empty and holds no reference. -/
theorem usableVersion?_eq_some_iff {version : Option String} {v : String} :
    usableVersion? version = some v ↔ version = some v ∧ v ≠ "" ∧ ¬HoldsReference v := by
  rw [usableVersion?, Option.filter_eq_some_iff, Bool.and_eq_true, bne_iff_ne, Bool.not_eq_true',
    ← Bool.not_eq_true, holdsReference_iff]

/-- The warning that a dependency is left out. -/
def skipped (d : PomDependency) : String :=
  s!"WARNING: {d.groupId}:{d.artifactId} has no resolvable version, skipping"

/-- A dependency without a version that can be used is left out. -/
theorem artifactOf_eq_error (h : usableVersion? (resolve properties d.version 0) = none) :
    artifactOf properties d = .error (skipped d) := by
  rw [artifactOf, h]
  rfl

/-- A dependency whose version can be used stands for an artifact of that version. -/
theorem exists_artifactOf_eq_ok {v : String}
    (h : usableVersion? (resolve properties d.version 0) = some v) :
    ∃ a, artifactOf properties d = .ok a ∧ a.version = v ∧ a.id = d.artifactId := by
  rw [artifactOf, h]
  exact ⟨_, rfl, rfl, rfl⟩

/-- An artifact has the version and the group that those of the dependency are resolved to. -/
theorem artifactOf_eq_ok {a : PomArtifact} (h : artifactOf properties d = .ok a) :
    usableVersion? (resolve properties d.version 0) = some a.version ∧
      a.group = resolve properties (some d.groupId) 0 := by
  rw [artifactOf] at h
  split at h
  · cases h
  · rename_i v hv
    cases h
    exact ⟨hv, rfl⟩

/-- Each artifact is that of a dependency that is asked for. -/
theorem exists_of_mem_artifacts {a : PomArtifact} (ha : a ∈ (artifacts p selection).1) :
    ∃ d ∈ p.dependencies, selection.AsksFor d ∧ artifactOf (allProperties p) d = .ok a := by
  simp only [artifacts, List.mem_filterMap, List.mem_map, List.mem_filter] at ha
  obtain ⟨result, ⟨d, ⟨hd, hasks⟩, hresult⟩, ha⟩ := ha
  cases result with
  | error warning => cases ha
  | ok b =>
    cases ha
    exact ⟨d, hd, Selection.asksFor_iff.1 hasks, hresult⟩

/-! ## Groups -/

/-- All properties have values. -/
def Valued (properties : Properties) : Prop := ∀ q ∈ properties, q.2.isSome

theorem Valued.addProperty (h : Valued properties) (value : Option String) :
    Valued (addProperty name value properties) := by
  unfold Pom.addProperty
  split
  · exact h
  · exact h
  · split
    · exact h
    · exact List.forall_mem_append.2 ⟨h, List.forall_mem_singleton.2 rfl⟩

theorem Valued.setProperty (h : Valued properties) (name value : String) :
    Valued (setProperty properties name value) := by
  unfold Pom.setProperty
  split
  · rw [Valued, List.forall_mem_map]
    intro q hq
    simp only
    split
    · rfl
    · exact h q hq
  · exact List.forall_mem_append.2 ⟨h, List.forall_mem_singleton.2 rfl⟩

/-- What is read for a property is its value. -/
theorem valued_readProject (root : Xml.Element) : Valued (readProject root).properties := by
  have hread (children : List Xml.Element) (before : Properties) (h : Valued before) :
      Valued (children.foldl (fun properties child =>
        if child.leadingText = "" then properties
        else setProperty properties child.name.base (Text.trimmed child.leadingText)) before) := by
    induction children generalizing before with
    | nil => exact h
    | cons child children ih =>
      rw [List.foldl_cons]
      split
      · exact ih before h
      · exact ih _ (h.setProperty _ _)
  simp only [readProject]
  cases find? root "properties" with
  | none => exact List.forall_mem_nil _
  | some e => exact hread e.children [] (List.forall_mem_nil _)

/-- Where all properties have values, a text is resolved to one. -/
theorem Valued.isSome_resolveIn (h : Valued properties) (steps : Nat) (s : String) :
    (resolveIn properties steps (some s)).isSome := by
  induction steps generalizing s with
  | zero => rfl
  | succ n ih =>
    rw [resolveIn]
    split
    · rfl
    · rename_i hvalue
      obtain ⟨key, -, hkey⟩ := Option.bind_eq_some_iff.1 hvalue
      obtain ⟨candidate, -, hlookup⟩ := List.exists_of_findSome?_eq_some hkey
      obtain ⟨before, after, rfl, -⟩ := List.lookup_eq_some_iff.1 hlookup
      exact absurd (h (candidate, none) (List.mem_append_right _ List.mem_cons_self)) (by simp)
    · split
      · exact ih _
      · rfl

/-- No group of an artifact is missing in a project that has been read. -/
theorem isSome_group_of_readProject {root : Xml.Element} {a : PomArtifact}
    (ha : a ∈ (artifacts (readProject root) selection).1) : a.group.isSome := by
  obtain ⟨d, -, -, hd⟩ := exists_of_mem_artifacts ha
  rw [(artifactOf_eq_ok hd).2]
  exact (((valued_readProject root).addProperty _).addProperty _).isSome_resolveIn _ _

/-! ## Properties of the project itself -/

/-- A property that is added is found, unless its value is empty or there was one. -/
theorem lookup_addProperty {v : String} (hv : v ≠ "") (hnone : properties.lookup name = none) :
    (addProperty name (some v) properties).lookup name = some (some v) := by
  rw [addProperty, hnone]
  · simp [List.lookup_append, hnone]
  · simpa using hv

/-- Other properties stay as they are. -/
theorem lookup_addProperty_of_ne {name' : String} (h : name' ≠ name) (value : Option String) :
    (addProperty name value properties).lookup name' = properties.lookup name' := by
  unfold addProperty
  split
  · rfl
  · rfl
  · split
    · rfl
    · have hne : (name' == name) = false := beq_false_of_ne h
      simp [List.lookup_append, List.lookup_cons, hne]

/-- Adding a value on one line leaves all on one line. -/
theorem OnOneLine.addProperty (h : OnOneLine properties) {value : Option String}
    (hvalue : ∀ v ∈ value, '\n' ∉ v.toList) : OnOneLine (addProperty name value properties) := by
  unfold Pom.addProperty
  split
  · exact h
  · exact h
  · rename_i v _
    split
    · exact h
    · exact List.forall_mem_append.2 ⟨h, List.forall_mem_singleton.2 ⟨v, rfl, hvalue v rfl⟩⟩

/-- A property without a reference in it is what references to it stand for. -/
theorem resolve_reference {v : String} (hname : name ≠ "") (hline : '\n' ∉ name.toList)
    (h : properties.lookup name = some (some v)) (hv : ¬HoldsReference v) :
    resolve properties (some (reference name)) 0 = some v := by
  have href : '\n' ∉ (reference name).toList := by simpa [toList_reference] using hline
  exact resolveIn_of_linksTo_free href (.named hname h) hv 10

/-- The version of the project is what references to it stand for, … -/
theorem resolve_project_version {v : String} (hp : p.version = some v) (hv : v ≠ "")
    (hfree : ¬HoldsReference v) (hnone : p.properties.lookup "project.version" = none) :
    resolve (allProperties p) (some (reference "project.version")) 0 = some v := by
  refine resolve_reference (by decide) (by decide) ?_ hfree
  rw [allProperties, hp]
  refine lookup_addProperty hv ?_
  rw [lookup_addProperty_of_ne (by decide), hnone]

/-- … and so is its group. -/
theorem resolve_project_groupId (hp : p.groupId ≠ "") (hfree : ¬HoldsReference p.groupId)
    (hnone : p.properties.lookup "project.groupId" = none) :
    resolve (allProperties p) (some (reference "project.groupId")) 0 = some p.groupId := by
  refine resolve_reference (by decide) (by decide) ?_ hfree
  rw [allProperties, lookup_addProperty_of_ne (by decide)]
  exact lookup_addProperty hp hnone

/-- The values of the properties of a project, its group and its version are on one line. -/
structure OneLined (p : PomProject) : Prop where
  properties : OnOneLine p.properties
  group : '\n' ∉ p.groupId.toList
  version : ∀ v ∈ p.version, '\n' ∉ v.toList

theorem OneLined.allProperties (h : OneLined p) : OnOneLine (allProperties p) :=
  .addProperty (.addProperty h.properties fun _ hv => Option.some.inj hv ▸ h.group) h.version

/-- A version leads to one that can be used. -/
def LeadsToVersion (properties : Properties) (version : Option String) (v : String) : Prop :=
  ∃ s, version = some s ∧ Reaches properties 0 s v ∧ v ≠ "" ∧ ¬HoldsReference v

/-- A version leads to one that can be used exactly if it is resolved to it. -/
theorem leadsToVersion_iff (h : OnOneLine properties) {version : Option String}
    (hversion : ∀ s ∈ version, '\n' ∉ s.toList) {v : String} :
    LeadsToVersion properties version v ↔
      usableVersion? (resolve properties version 0) = some v := by
  rw [usableVersion?_eq_some_iff]
  constructor
  · rintro ⟨s, rfl, hreach, hv, hfree⟩
    exact ⟨(hreach.endsAt hfree).resolve_eq h (hversion s rfl), hv, hfree⟩
  · rintro ⟨hresolve, hv, hfree⟩
    cases version with
    | none => cases hresolve
    | some s =>
      obtain ⟨t, hend⟩ := exists_endsAt properties s (by decide : (0 : Int) ≤ 10)
      cases hresolve.symm.trans (hend.resolve_eq h (hversion s rfl))
      exact ⟨s, rfl, hend.reaches, hv, hfree⟩

/-! ## References are followed -/

/-- A text without a reference stands for itself. Another one stands for the text without a
    reference that is reached from it, and if there is none for the last one that is reached, in
    which a reference is left. So of the dependencies that are asked for, those whose versions
    lead to ones that can be used yield artifacts of these versions, and the others are left out
    with a warning. -/
theorem resolve_follows :
    (∀ (properties : Properties) (s : String), OnOneLine properties → '\n' ∉ s.toList →
      (¬HoldsReference s → ∀ depth, resolve properties (some s) depth = some s) ∧
      (HoldsReference s → ∀ depth ≤ 10,
        (∀ t, Reaches properties depth s t → ¬HoldsReference t →
          resolve properties (some s) depth = some t) ∧
        ((∀ t, Reaches properties depth s t → HoldsReference t) →
          ∃ t, EndsAt properties depth s t ∧ HoldsReference t ∧
            resolve properties (some s) depth = some t))) ∧
    (∀ (p : PomProject) (selection : Selection) (before after : List PomDependency)
        (d : PomDependency),
      OneLined p → (∀ s ∈ d.version, '\n' ∉ s.toList) → selection.AsksFor d →
      ∃ as ws as' ws',
        Tells { p with dependencies := before } selection as ws ∧
        Tells { p with dependencies := after } selection as' ws' ∧
        (∀ v, LeadsToVersion (allProperties p) d.version v →
          ∃ a, a.version = v ∧ a.id = d.artifactId ∧
            Tells { p with dependencies := before ++ d :: after } selection (as ++ a :: as')
              (ws ++ ws')) ∧
        ((¬∃ v, LeadsToVersion (allProperties p) d.version v) →
          Tells { p with dependencies := before ++ d :: after } selection (as ++ as')
            (ws ++ skipped d :: ws'))) := by
  refine ⟨fun properties s h hs => ⟨fun hfree depth => ?_, fun hholds depth hdepth =>
      ⟨fun t hreach ht => ?_, fun hall => ?_⟩⟩,
    fun p selection before after d hp hd hasks =>
      ⟨_, _, _, _, tells_iff.2 rfl, tells_iff.2 rfl, fun v hv => ?_, fun hnone => ?_⟩⟩
  · exact resolveIn_of_not_holdsReference hfree _
  · exact (hreach.endsAt ht).resolve_eq h hs
  · obtain ⟨t, hend⟩ := exists_endsAt properties s hdepth
    exact ⟨t, hend, hall t hend.reaches, hend.resolve_eq h hs⟩
  · obtain ⟨a, ha, hversion, hid⟩ := exists_artifactOf_eq_ok
      ((leadsToVersion_iff hp.allProperties hd).1 hv)
    exact ⟨a, hversion, hid,
      (tells_iff.2 rfl).append ((tells_of_ok hasks ha).append (tells_iff.2 rfl))⟩
  · have hunusable : usableVersion? (resolve (allProperties p) d.version 0) = none := by
      rw [Option.eq_none_iff_forall_ne_some]
      exact fun v hv => hnone ⟨v, (leadsToVersion_iff hp.allProperties hd).2 hv⟩
    exact (tells_iff.2 rfl).append
      ((tells_of_error hasks (artifactOf_eq_error hunusable)).append (tells_iff.2 rfl))

/-- A project with a property by way of another one, and one that refers to itself. -/
def linkedProject : PomProject where
  groupId := "org.app"
  artifactId := "app"
  version := some "2"
  properties := [("lib", some (reference "app")), ("app", some (reference "project.version")),
    ("loop", some (reference "loop"))]

/-- A dependency of the project with links. -/
def linkedDependency (version : String) : PomDependency where
  groupId := reference "project.groupId"
  artifactId := "lib"
  version := some version

theorem oneLined_linkedProject : OneLined linkedProject where
  properties := by simp [OnOneLine, linkedProject, toList_reference]
  group := by decide
  version := by simp [linkedProject]

/-- A text that links only to itself leads nowhere else. -/
theorem Leads.eq_of_loop {s t : String} {k : Nat} (hlead : Leads properties k s t)
    (h : ∀ u, LinksTo properties s u → u = s) : t = s := by
  induction hlead with
  | refl s => rfl
  | link hlink _ ih =>
    cases h _ hlink
    exact ih h

theorem resolve_follows_linkedProject :
    resolve (allProperties linkedProject) (some (reference "lib")) 0 = some "2" ∧
    resolve (allProperties linkedProject) (some (reference "loop")) 0 = some (reference "loop") ∧
    (∃ as a as' ws, a.version = "2" ∧ Tells
      { linkedProject with dependencies := [] ++ linkedDependency (reference "lib") :: [] } {}
      (as ++ a :: as') ws) ∧
    ∃ as ws ws', Tells
      { linkedProject with dependencies := [] ++ linkedDependency (reference "loop") :: [] } {}
      as (ws ++ skipped (linkedDependency (reference "loop")) :: ws') := by
  have hp := oneLined_linkedProject
  have happ : LinksTo (allProperties linkedProject) (reference "lib") (reference "app") :=
    .named (by decide) (by decide)
  have hown : LinksTo (allProperties linkedProject) (reference "app")
    (reference "project.version") := .named (by decide) (by decide)
  have htwo : LinksTo (allProperties linkedProject) (reference "project.version") "2" :=
    .named (by decide) (by decide)
  -- `lib` leads over `app` and `project.version` to a text, `loop` to itself only.
  have hreach : Reaches (allProperties linkedProject) 0 (reference "lib") "2" :=
    ⟨3, by decide, .link happ (.link hown (.link htwo (.refl "2")))⟩
  have hloop (t : String) (h : Reaches (allProperties linkedProject) 0 (reference "loop") t) :
      t = reference "loop" := by
    obtain ⟨k, -, hlead⟩ := h
    refine hlead.eq_of_loop fun u hlink => ?_
    have hvalue := (linksTo_iff (by decide)).1 hlink
    have hself : (referenceName? (reference "loop")).bind
        (property? (allProperties linkedProject)) = some (some (reference "loop")) := by decide
    exact (Option.some.inj (Option.some.inj (hself.symm.trans hvalue))).symm
  have hholds (t : String) (h : Reaches (allProperties linkedProject) 0 (reference "loop") t) :
      HoldsReference t := hloop t h ▸ holdsReference_reference _
  obtain ⟨htexts, hprojects⟩ := resolve_follows
  obtain ⟨-, hlib⟩ := htexts (allProperties linkedProject) (reference "lib") hp.allProperties
    (by decide)
  obtain ⟨-, hself⟩ := htexts (allProperties linkedProject) (reference "loop") hp.allProperties
    (by decide)
  refine ⟨(hlib (holdsReference_reference _) 0 (by decide)).1 "2" hreach (by decide), ?_, ?_, ?_⟩
  · obtain ⟨t, hend, -, hresolve⟩ := (hself (holdsReference_reference _) 0 (by decide)).2 hholds
    exact hloop t hend.reaches ▸ hresolve
  · obtain ⟨as, ws, as', ws', -, -, hversion, -⟩ := hprojects linkedProject {} [] []
      (linkedDependency (reference "lib")) hp (by decide) (by decide)
    obtain ⟨a, ha, -, htells⟩ := hversion "2" ⟨_, rfl, hreach, by decide, by decide⟩
    exact ⟨as, a, as', ws ++ ws', ha, htells⟩
  · obtain ⟨as, ws, as', ws', -, -, -, hskipped⟩ := hprojects linkedProject {} [] []
      (linkedDependency (reference "loop")) hp (by decide) (by decide)
    refine ⟨as ++ as', ws, ws', hskipped ?_⟩
    rintro ⟨v, s, hs, hreach, -, hfree⟩
    cases hs
    exact hfree (hholds v hreach)

/-! ## Each dependency is accounted for -/

/-- The artifacts and the warnings of dependencies are those of some of them, and then those of
    the others. A dependency that is asked for yields one artifact or one warning, the same
    whatever is asked for, and another one nothing; so asking for some dependencies only leaves
    out the artifacts of the others. Each artifact has a version that is not empty and holds no
    reference. References to the version and the group of the project stand for these, unless
    there are properties of the same names. -/
theorem artifacts_accounted (p : PomProject) :
    (∀ (selection : Selection) (ds ds' : List PomDependency), ∃ as ws as' ws',
      Tells { p with dependencies := ds } selection as ws ∧
      Tells { p with dependencies := ds' } selection as' ws' ∧
      Tells { p with dependencies := ds ++ ds' } selection (as ++ as') (ws ++ ws')) ∧
    (∀ d : PomDependency,
      ((∃ a, ∀ selection : Selection, selection.AsksFor d →
          Tells { p with dependencies := [d] } selection [a] []) ∨
        ∃ warning, ∀ selection : Selection, selection.AsksFor d →
          Tells { p with dependencies := [d] } selection [] [warning]) ∧
      ∀ selection : Selection, ¬selection.AsksFor d →
        Tells { p with dependencies := [d] } selection [] []) ∧
    (∀ selection : Selection, ∃ as ws all allWarnings, Tells p selection as ws ∧
      Tells { p with dependencies := p.dependencies.filter selection.AsksFor } {} as ws ∧
      Tells p {} all allWarnings ∧ as.Sublist all) ∧
    (∀ (selection : Selection) (as : List PomArtifact) (ws : List String), Tells p selection as ws →
      ∀ a ∈ as, a.version ≠ "" ∧ ¬HoldsReference a.version) ∧
    (∀ v, p.version = some v → v ≠ "" → ¬HoldsReference v →
      p.properties.lookup "project.version" = none →
      ∀ (d : PomDependency) (selection : Selection),
        d.version = some (reference "project.version") → selection.AsksFor d →
        ∃ a, a.version = v ∧ Tells { p with dependencies := [d] } selection [a] []) ∧
    (p.groupId ≠ "" → ¬HoldsReference p.groupId →
      p.properties.lookup "project.groupId" = none →
      ∀ (d : PomDependency) (selection : Selection) (as : List PomArtifact) (ws : List String),
        d.groupId = reference "project.groupId" →
        Tells { p with dependencies := [d] } selection as ws →
          ∀ a ∈ as, a.group = some p.groupId) := by
  refine ⟨fun selection ds ds' => ?_, fun d => ⟨?_, fun selection hd => tells_of_not_asksFor hd⟩,
    fun selection => ?_, fun selection as ws h a ha => ?_,
    fun v hp hv hfree hnone d selection hd hasks => ?_,
    fun hp hfree hnone d selection as ws hd h a ha => ?_⟩
  · exact ⟨_, _, _, _, tells_iff.2 rfl, tells_iff.2 rfl, (tells_iff.2 rfl).append (tells_iff.2 rfl)⟩
  · cases hresult : artifactOf (allProperties p) d with
    | ok a => exact .inl ⟨a, fun selection hd => tells_of_ok hd hresult⟩
    | error warning => exact .inr ⟨warning, fun selection hd => tells_of_error hd hresult⟩
  · exact ⟨_, _, _, _, tells_iff.2 rfl, tells_iff.2 (artifacts_eq_of_filter p selection).symm,
      tells_iff.2 rfl, artifacts_sublist p selection⟩
  · have has : (artifacts p selection).1 = as := congrArg Prod.fst (tells_iff.1 h)
    obtain ⟨d, -, -, hd⟩ := exists_of_mem_artifacts (has ▸ ha)
    exact (usableVersion?_eq_some_iff.1 (artifactOf_eq_ok hd).1).2
  · have husable : usableVersion? (resolve (allProperties p) d.version 0) = some v := by
      rw [hd, usableVersion?_eq_some_iff]
      exact ⟨resolve_project_version hp hv hfree hnone, hv, hfree⟩
    obtain ⟨a, ha, hversion, -⟩ := exists_artifactOf_eq_ok husable
    exact ⟨a, hversion, tells_of_ok hasks ha⟩
  · have has : (artifacts { p with dependencies := [d] } selection).1 = as :=
      congrArg Prod.fst (tells_iff.1 h)
    obtain ⟨d', hd', -, hresult⟩ := exists_of_mem_artifacts (has ▸ ha)
    obtain rfl := List.mem_singleton.1 hd'
    have hgroup : resolve (allProperties p) (some d'.groupId) 0 = some p.groupId :=
      hd ▸ resolve_project_groupId hp hfree hnone
    exact (artifactOf_eq_ok hresult).2.trans hgroup

theorem artifacts_accounted_linkedProject :
    ∃ a : PomArtifact, a.version = "2" ∧ a.group = some "org.app" ∧ Tells { linkedProject with
      dependencies := [linkedDependency (reference "project.version")] } {} [a] [] := by
  obtain ⟨-, -, -, -, hversion, hgroup⟩ := artifacts_accounted linkedProject
  obtain ⟨a, ha, htells⟩ := hversion "2" rfl (by decide) (by decide) (by decide)
    (linkedDependency (reference "project.version")) {} rfl (by decide)
  exact ⟨a, ha, hgroup (by decide) (by decide) (by decide) _ {} [a] [] rfl htells a
    (List.mem_singleton_self a), htells⟩

end JavaBuild.Pom
