import JavaBuild.Checkstyle.Aggregate
import JavaBuild.Proofs.Dictionary
import JavaBuild.Proofs.Text.Line
import JavaBuild.Proofs.Work
import Mathlib.Data.List.Basic

/-!
# What projects are combined into

Projects are combined unless they clash: over the rules, of which there must be one, or over
the style, of which there may be one (`Clash`). What they are combined into is told setting
by setting (`Combines`). Which rules and which style are chosen depends only on the set of the
paths that projects name, so it does not matter in which order or how often projects are
listed (`aggregate_combines`).
-/

namespace JavaBuild.Checkstyle

variable {projects projects' : List Config} {base r : Config} {ps ps' : List (Option Path)}
  {own : Option Path} {p : Path}

/-! ## Named paths -/

/-- A path is named if it is given, and not written with blanks only. -/
def Names (ps : List (Option Path)) (p : Path) : Prop :=
  some p ∈ ps ∧ ∃ c ∈ p.toString.toList, Text.isBlank c = false

theorem mem_distinctPaths : p ∈ distinctPaths ps ↔ Names ps p := by
  have hblank : Text.trimmed p.toString ≠ "" ↔
      ∃ c ∈ p.toString.toList, Text.isBlank c = false := by
    rw [Ne, Text.trimmed_eq_empty_iff]
    simp
  rw [distinctPaths, List.mem_eraseDups, List.mem_filter, bne_iff_ne, hblank, Names]
  simp

theorem nodup_distinctPaths (ps : List (Option Path)) : (distinctPaths ps).Nodup := by
  rw [distinctPaths, eraseDups_eq_firsts]
  simpa using nodup_firsts id _

/-- No path is named, one is, or there are two. -/
theorem distinctPaths_cases (ps : List (Option Path)) :
    (distinctPaths ps = [] ∧ ∀ p, ¬Names ps p) ∨
      (∃ p, distinctPaths ps = [p] ∧ ∀ q, Names ps q ↔ q = p) ∨
      ∃ p q rest, distinctPaths ps = p :: q :: rest ∧ p ≠ q ∧ Names ps p ∧ Names ps q := by
  have hmem (p : Path) : p ∈ distinctPaths ps ↔ Names ps p := mem_distinctPaths
  have hnodup := nodup_distinctPaths ps
  match hpaths : distinctPaths ps with
  | [] =>
    refine .inl ⟨rfl, fun p hp => ?_⟩
    rw [← hmem, hpaths] at hp
    exact List.not_mem_nil hp
  | [p] =>
    refine .inr (.inl ⟨p, rfl, fun q => ?_⟩)
    rw [← hmem, hpaths, List.mem_singleton]
  | p :: q :: rest =>
    rw [hpaths] at hnodup
    have hne : p ≠ q := fun h => (List.nodup_cons.1 hnodup).1 (h ▸ List.mem_cons_self)
    refine .inr (.inr ⟨p, q, rest, rfl, hne, ?_, ?_⟩)
    · rw [← hmem, hpaths]
      exact List.mem_cons_self
    · rw [← hmem, hpaths]
      exact List.mem_cons_of_mem _ List.mem_cons_self

/-- Whether several paths are named can be found out by counting. -/
theorem exists_ne_names_iff :
    (∃ p q, p ≠ q ∧ Names ps p ∧ Names ps q) ↔ 1 < (distinctPaths ps).length := by
  rcases distinctPaths_cases ps with
    ⟨hpaths, hnone⟩ | ⟨p, hpaths, hone⟩ | ⟨p, q, rest, hpaths, hne, hp, hq⟩
  · simp [hpaths, hnone]
  · simp only [hpaths, hone, List.length_singleton, lt_irrefl, iff_false]
    rintro ⟨a, b, hne, rfl, rfl⟩
    exact hne rfl
  · rw [hpaths]
    exact iff_of_true ⟨p, q, hne, hp, hq⟩ (by simp)

theorem existsUnique_names_iff : (∃! p, Names ps p) ↔ (distinctPaths ps).length = 1 := by
  rcases distinctPaths_cases ps with
    ⟨hpaths, hnone⟩ | ⟨p, hpaths, hone⟩ | ⟨p, q, rest, hpaths, hne, hp, hq⟩
  · simp [hpaths, hnone, ExistsUnique]
  · simp [hpaths, hone]
  · rw [hpaths]
    exact iff_of_false (fun h => hne (h.unique hp hq)) (by simp)

/-- A choice is the own path if there is one, and else the one that is named. -/
def Chosen (own : Option Path) (ps : List (Option Path)) (choice : Option Path) : Prop :=
  ∀ p, choice = some p ↔ own = some p ∨ (own = none ∧ Names ps p)

theorem chosen_own (p : Path) (ps : List (Option Path)) : Chosen (some p) ps (some p) := by
  simp [Chosen]

/-- There is one choice only, and it depends on nothing but which paths are named. -/
theorem Chosen.unique {a b : Option Path} (ha : Chosen own ps a) (hb : Chosen own ps' b)
    (h : ∀ p, Names ps' p ↔ Names ps p) : b = a := by
  refine Option.ext fun p => ?_
  rw [ha p, hb p, h p]

/-! ## Combinations -/

/-- The base has no rules, and the projects do not name exactly one rules file; or it has no
    style, and they name several. -/
def Clash (projects : List Config) (base : Config) : Prop :=
  (base.rules = none ∧ ¬∃! p, Names (projects.map (·.rules)) p) ∨
    (base.style = none ∧ ∃ p q, p ≠ q ∧ Names (projects.map (·.style)) p ∧
      Names (projects.map (·.style)) q)

instance : Decidable (Clash projects base) :=
  decidable_of_iff
    ((base.rules = none ∧ (distinctPaths (projects.map (·.rules))).length ≠ 1) ∨
      (base.style = none ∧ 1 < (distinctPaths (projects.map (·.style))).length))
    (by rw [Clash, existsUnique_names_iff, exists_ne_names_iff])

/-- The first class path that is not empty. -/
inductive FirstGiven : List (List Path) → List Path → Prop
  | none : FirstGiven [] []
  | skip {classpaths : List (List Path)} {classpath : List Path}
    (h : FirstGiven classpaths classpath) : FirstGiven ([] :: classpaths) classpath
  | here {classpaths : List (List Path)} {classpath : List Path} (h : classpath ≠ []) :
    FirstGiven (classpath :: classpaths) classpath

/-- What projects are combined into. All that is not told here is that of the base. -/
structure Combines (projects : List Config) (base r : Config) : Prop where
  rules : Chosen base.rules (projects.map (·.rules)) r.rules
  isSome_rules : r.rules.isSome
  style : Chosen base.style (projects.map (·.style)) r.style
  sources : r.sources = firsts id (projects.flatMap (·.sources))
  classpath : FirstGiven ((base :: projects).map (·.classpath)) r.classpath
  rest : { r with
    rules := base.rules, style := base.style, sources := base.sources
    classpath := base.classpath } = base

theorem firstGiven_find? (classpaths : List (List Path)) :
    FirstGiven classpaths ((classpaths.find? fun classpath => !classpath.isEmpty).getD []) := by
  induction classpaths with
  | nil => exact .none
  | cons classpath classpaths ih =>
    cases classpath with
    | nil => exact .skip ih
    | cons p ps => exact .here (List.cons_ne_nil p ps)

/-- The rules are chosen, unless the base has none and not exactly one rules file is named. -/
theorem commonRules_cases (base : Config) (projects : List Config) (s : Session) :
    (base.rules = none ∧ (¬∃! p, Names (projects.map (·.rules)) p) ∧
        ∃ e, ((commonRules base projects).runIn s).1 = .error (.checkstyle e)) ∨
      (¬(base.rules = none ∧ ¬∃! p, Names (projects.map (·.rules)) p) ∧
        ∃ p s', (commonRules base projects).runIn s = (.ok p, s') ∧
          Chosen base.rules (projects.map (·.rules)) (some p)) := by
  rw [commonRules]
  cases hbase : base.rules with
  | some p => exact .inr ⟨by simp, p, s, rfl, chosen_own p _⟩
  | none =>
    rcases distinctPaths_cases (projects.map (·.rules)) with
      ⟨hpaths, hnone⟩ | ⟨p, hpaths, hone⟩ | ⟨p, q, rest, hpaths, hne, hp, hq⟩
    · simp only [hpaths]
      exact .inl ⟨trivial, fun ⟨p, hp, _⟩ => hnone p hp, _, rfl⟩
    · simp only [hpaths]
      refine .inr ⟨fun h => h.2 ⟨p, (hone p).2 rfl, fun q => (hone q).1⟩, p, _, rfl, fun q => ?_⟩
      simp [hone, eq_comm]
    · simp only [hpaths]
      exact .inl ⟨trivial, fun h => hne (h.unique hp hq), _, rfl⟩

/-- The style is chosen, unless the base has none and several are named. -/
theorem commonStyle_cases (base : Config) (projects : List Config) (s : Session) :
    (base.style = none ∧ (∃ p q, p ≠ q ∧ Names (projects.map (·.style)) p ∧
          Names (projects.map (·.style)) q) ∧
        ∃ e, ((commonStyle base projects).runIn s).1 = .error (.checkstyle e)) ∨
      (¬(base.style = none ∧ ∃ p q, p ≠ q ∧ Names (projects.map (·.style)) p ∧
          Names (projects.map (·.style)) q) ∧
        ∃ choice s', (commonStyle base projects).runIn s = (.ok choice, s') ∧
          Chosen base.style (projects.map (·.style)) choice) := by
  rw [commonStyle]
  cases hbase : base.style with
  | some p => exact .inr ⟨by simp, some p, s, rfl, chosen_own p _⟩
  | none =>
    rcases distinctPaths_cases (projects.map (·.style)) with
      ⟨hpaths, hnone⟩ | ⟨p, hpaths, hone⟩ | ⟨p, q, rest, hpaths, hne, hp, hq⟩
    · simp only [hpaths]
      refine .inr ⟨fun ⟨_, p, _, _, hp, _⟩ => hnone p hp, none, s, rfl, fun p => ?_⟩
      simp [hnone]
    · simp only [hpaths]
      refine .inr ⟨fun ⟨_, a, b, hne, ha, hb⟩ => hne ?_, some p, _, rfl, fun q => ?_⟩
      · rw [(hone a).1 ha, (hone b).1 hb]
      · simp [hone, eq_comm]
    · simp only [hpaths]
      exact .inl ⟨trivial, ⟨p, q, hne, hp, hq⟩, _, rfl⟩

/-- Projects are combined, unless they clash. -/
theorem aggregate_cases (projects : List Config) (base : Config) (s : Session) :
    (Clash projects base ∧
        ∃ e, ((aggregate projects base).runIn s).1 = .error (.checkstyle e)) ∨
      (¬Clash projects base ∧
        ∃ r, ((aggregate projects base).runIn s).1 = .ok r ∧ Combines projects base r) := by
  rw [aggregate]
  rcases commonRules_cases base projects s with
    ⟨hnone, hrules, e, he⟩ | ⟨hrules, p, s₁, hp, hchosen⟩
  · exact .inl ⟨.inl ⟨hnone, hrules⟩, e, Work.runIn_bind_eq_error he⟩
  · rw [Work.runIn_bind, hp]
    rcases commonStyle_cases base projects s₁ with
      ⟨hnone, hstyle, e, he⟩ | ⟨hstyle, choice, s₂, hstyled, hchoice⟩
    · exact .inl ⟨.inr ⟨hnone, hstyle⟩, e, Work.runIn_bind_eq_error he⟩
    · simp only [Work.runIn_bind, hstyled]
      refine .inr ⟨fun h => h.elim hrules hstyle, _, rfl, ?_⟩
      exact ⟨hchosen, rfl, hchoice, eraseDups_eq_firsts _, firstGiven_find? _, rfl⟩

/-! ## The order of projects -/

/-- Two attempts at a combination come to the same, but for the order of the sources and for
    the class path. -/
inductive SameChoice : Except Failure Config → Except Failure Config → Prop
  | failed {f f' : Failure} : SameChoice (.error f) (.error f')
  | combined {r r' : Config} (rules : r'.rules = r.rules) (style : r'.style = r.style)
    (sources : ∀ p, p ∈ r'.sources ↔ p ∈ r.sources) : SameChoice (.ok r) (.ok r')

theorem names_congr (h : ∀ c, c ∈ projects' ↔ c ∈ projects) (f : Config → Option Path)
    (p : Path) : Names (projects'.map f) p ↔ Names (projects.map f) p := by
  simp only [Names, List.mem_map, h]

theorem clash_congr (h : ∀ c, c ∈ projects' ↔ c ∈ projects) :
    Clash projects' base ↔ Clash projects base := by
  simp only [Clash, names_congr h]

theorem Combines.mem_sources (h : Combines projects base r) :
    p ∈ r.sources ↔ ∃ c ∈ projects, p ∈ c.sources := by
  rw [h.sources, ← eraseDups_eq_firsts, List.mem_eraseDups, List.mem_flatMap]

/-- Projects can be combined unless they clash, and what they are combined into is told by
    `Combines`. It does not matter in which order or how often they are listed. -/
theorem aggregate_combines (projects : List Config) (base : Config) (s : Session) :
    ((∃ e, ((aggregate projects base).runIn s).1 = .error (.checkstyle e)) ↔
      Clash projects base) ∧
    (¬Clash projects base →
      ∃ r, ((aggregate projects base).runIn s).1 = .ok r ∧ Combines projects base r) ∧
    ∀ projects', (∀ c, c ∈ projects' ↔ c ∈ projects) →
      SameChoice ((aggregate projects base).runIn s).1
        ((aggregate projects' base).runIn s).1 := by
  rcases aggregate_cases projects base s with ⟨hclash, e, he⟩ | ⟨hclash, r, hr, hcombines⟩
  · -- Whether projects clash depends on which of them there are only, so all attempts fail.
    refine ⟨iff_of_true ⟨e, he⟩ hclash, fun h => absurd hclash h, fun projects' h => ?_⟩
    rcases aggregate_cases projects' base s with ⟨-, e', he'⟩ | ⟨hclash', -⟩
    · rw [he, he']
      exact .failed
    · exact absurd ((clash_congr h).2 hclash) hclash'
  · refine ⟨iff_of_false (fun ⟨e, he⟩ => ?_) hclash, fun _ => ⟨r, hr, hcombines⟩,
      fun projects' h => ?_⟩
    · rw [hr] at he
      cases he
    · rcases aggregate_cases projects' base s with ⟨hclash', -⟩ | ⟨-, r', hr', hcombines'⟩
      · exact absurd ((clash_congr h).1 hclash') hclash
      · rw [hr, hr']
        refine .combined (hcombines.rules.unique hcombines'.rules (names_congr h _))
          (hcombines.style.unique hcombines'.style (names_congr h _)) fun p => ?_
        simp only [hcombines.mem_sources, hcombines'.mem_sources, h]

/-- A project with rules, a blank style and sources, … -/
def firstProject : Config :=
  { rules := some (.ofString "rules.xml"), style := some (.ofString " ")
    sources := [.ofString "a", .ofString "b"] }

/-- … and one that names the same rules, with a style and a class path. -/
def secondProject : Config :=
  { rules := some (.ofString "rules.xml"), style := some (.ofString "page.xsl")
    sources := [.ofString "b", .ofString "c"], classpath := [.ofString "lib"] }

/-- Nothing is there when the projects are combined. -/
def nothingThere : Session where
  workspace := { files := .empty, here := [], home := [] }

theorem aggregate_combines_repeated :
    ¬Clash [firstProject, secondProject] {} ∧
    (∀ c, c ∈ [secondProject, firstProject, secondProject] ↔
      c ∈ [firstProject, secondProject]) ∧
    (∃ r, ((aggregate [firstProject, secondProject] {}).runIn nothingThere).1 = .ok r ∧
      Combines [firstProject, secondProject] {} r) ∧
    SameChoice ((aggregate [firstProject, secondProject] {}).runIn nothingThere).1
      ((aggregate [secondProject, firstProject, secondProject] {}).runIn nothingThere).1 := by
  have hclash : ¬Clash [firstProject, secondProject] {} := by decide +kernel
  have hmem (c : Config) : c ∈ [secondProject, firstProject, secondProject] ↔
      c ∈ [firstProject, secondProject] := by
    simp only [List.mem_cons, List.not_mem_nil, or_false]
    tauto
  obtain ⟨-, hcombines, hsame⟩ := aggregate_combines [firstProject, secondProject] {} nothingThere
  exact ⟨hclash, hmem, hcombines hclash, hsame _ hmem⟩

end JavaBuild.Checkstyle
