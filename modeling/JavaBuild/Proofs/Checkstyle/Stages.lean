import JavaBuild.Proofs.Checkstyle.Aggregate

/-!
# Projects that are combined in stages

What projects are combined into can be combined again. What is chosen from the projects by
then stands for all that they name (`Chosen.distinctPaths_eq`), so nothing is lost or gained
on the way: two groups of projects that can be combined each are combined as all of them
are at once (`aggregate_stages`).
-/

namespace JavaBuild.Checkstyle

variable {projects projects' : List Config} {base x y : Config} {ps ps' : List (Option Path)}
  {choice choice' : Option Path} {classpaths classpaths' : List (List Path)}
  {classpath classpath' : List Path} {s t : Session}

/-! ## Choices -/

/-- What is chosen without an own path is all that is named. -/
theorem Chosen.distinctPaths_eq (h : Chosen none ps choice) :
    distinctPaths ps = choice.toList := by
  have hnamed (p : Path) : choice = some p ↔ Names ps p := by simpa using h p
  rcases distinctPaths_cases ps with
    ⟨hpaths, hnone⟩ | ⟨p, hpaths, hone⟩ | ⟨p, q, rest, -, hne, hp, hq⟩
  · have hchoice : choice = none := Option.eq_none_iff_forall_ne_some.2 fun p hp =>
      hnone p ((hnamed p).1 hp)
    rw [hpaths, hchoice]
    rfl
  · rw [hpaths, (hnamed p).2 ((hone p).2 rfl)]
    rfl
  · refine absurd (Option.some.inj ?_) hne
    rw [← (hnamed p).2 hp, ← (hnamed q).2 hq]

/-- A choice may be chosen again. -/
theorem Chosen.singleton (h : Chosen none ps choice) : Chosen none [choice] choice := by
  intro p
  simp only [true_and, reduceCtorEq, false_or, Names, List.mem_singleton, eq_comm (a := some p)]
  constructor
  · intro hp
    exact ⟨hp, ((h p).1 hp).elim (absurd · (Option.some_ne_none p).symm) fun hnames => hnames.2.2⟩
  · exact And.left

theorem distinctPaths_append (ps ps' : List (Option Path)) :
    distinctPaths (ps ++ ps') = (distinctPaths ps ++ distinctPaths ps').eraseDups := by
  rw [distinctPaths, distinctPaths, distinctPaths, List.filterMap_append, List.filter_append,
    eraseDups_append_eraseDups]

/-- Choices from two lists stand for what is named there. -/
theorem Chosen.distinctPaths_pair (h : Chosen none ps choice) (h' : Chosen none ps' choice') :
    distinctPaths [choice, choice'] = distinctPaths (ps ++ ps') := by
  have hpair : [choice, choice'] = [choice] ++ [choice'] := rfl
  rw [hpair, distinctPaths_append, distinctPaths_append, h.singleton.distinctPaths_eq,
    h'.singleton.distinctPaths_eq, h.distinctPaths_eq, h'.distinctPaths_eq]

/-! ## Class paths -/

/-- The first class path that is not empty is found again. -/
theorem FirstGiven.find?_singleton (h : FirstGiven classpaths classpath) :
    [classpath].find? (fun classpath => !classpath.isEmpty) =
      classpaths.find? (fun classpath => !classpath.isEmpty) := by
  induction h with
  | none => rfl
  | skip _ ih => exact ih
  | @here _ classpath hne =>
    cases classpath with
    | nil => exact absurd rfl hne
    | cons p rest => rfl

/-- An empty class path is passed over. -/
theorem FirstGiven.of_cons_nil (h : FirstGiven ([] :: classpaths) classpath) :
    FirstGiven classpaths classpath := by
  cases h with
  | skip h => exact h
  | here hne => exact absurd rfl hne

theorem FirstGiven.find?_pair (h : FirstGiven classpaths classpath)
    (h' : FirstGiven classpaths' classpath') :
    [classpath, classpath'].find? (fun classpath => !classpath.isEmpty) =
      (classpaths ++ classpaths').find? (fun classpath => !classpath.isEmpty) := by
  have hpair : [classpath, classpath'] = [classpath] ++ [classpath'] := rfl
  rw [hpair, List.find?_append, List.find?_append, h.find?_singleton, h'.find?_singleton]

/-! ## Stages -/

section Pair

variable (hx : Combines projects {} x) (hy : Combines projects' {} y) (base : Config)
include hx hy

theorem commonRules_pair : commonRules base [x, y] = commonRules base (projects ++ projects') := by
  rw [commonRules, commonRules, List.map_append, ← hx.rules.distinctPaths_pair hy.rules]
  rfl

theorem commonStyle_pair : commonStyle base [x, y] = commonStyle base (projects ++ projects') := by
  rw [commonStyle, commonStyle, List.map_append, ← hx.style.distinctPaths_pair hy.style]
  rfl

theorem sources_pair :
    ([x, y].flatMap (·.sources)).eraseDups =
      ((projects ++ projects').flatMap (·.sources)).eraseDups := by
  have hpair : [x, y].flatMap (·.sources) = x.sources ++ y.sources := by simp
  rw [hpair, hx.sources, hy.sources, List.flatMap_append, eraseDups_eq_firsts, eraseDups_eq_firsts,
    firsts_append_firsts, firsts_firsts_append]

theorem classpath_pair :
    ((base :: [x, y]).map (·.classpath)).find? (fun classpath => !classpath.isEmpty) =
      ((base :: (projects ++ projects')).map (·.classpath)).find?
        (fun classpath => !classpath.isEmpty) := by
  have hgiven {projects : List Config} {x : Config} (h : Combines projects {} x) :
      FirstGiven (projects.map (·.classpath)) x.classpath := h.classpath.of_cons_nil
  have hsplit (projects : List Config) : (base :: projects).map (·.classpath) =
      [base.classpath] ++ projects.map (·.classpath) := rfl
  rw [hsplit, hsplit, List.find?_append, List.find?_append, List.map_append,
    ← (hgiven hx).find?_pair (hgiven hy)]
  rfl

/-- What two groups of projects are combined into is combined as all of the projects are. -/
theorem aggregate_pair : aggregate [x, y] base = aggregate (projects ++ projects') base := by
  simp only [aggregate, commonRules_pair hx hy, commonStyle_pair hx hy, sources_pair hx hy,
    classpath_pair hx hy]

end Pair

theorem combines_of_aggregate (h : ((aggregate projects base).runIn s).1 = .ok x) :
    Combines projects base x := by
  rcases aggregate_cases projects base s with ⟨-, e, he⟩ | ⟨-, r, hr, hcombines⟩
  · rw [he] at h
    cases h
  · rw [hr] at h
    cases h
    exact hcombines

/-- Projects that are combined in stages come to what they come to at once: to the same
    configuration, or to the same failure, with the same lines printed. -/
theorem aggregate_stages (hx : ((aggregate projects {}).runIn s).1 = .ok x)
    (hy : ((aggregate projects' {}).runIn t).1 = .ok y) (base : Config) (u : Session) :
    (aggregate [x, y] base).runIn u = (aggregate (projects ++ projects') base).runIn u := by
  rw [aggregate_pair (combines_of_aggregate hx) (combines_of_aggregate hy)]

/-- The blank style of the first project is gone after the first stage, and is not chosen at
    once either. -/
theorem aggregate_stages_sample :
    ((aggregate [firstProject] {}).runIn nothingThere).1 =
      .ok { firstProject with style := none } ∧
    ((aggregate [secondProject] {}).runIn nothingThere).1 = .ok secondProject ∧
    (aggregate [{ firstProject with style := none }, secondProject] {}).runIn nothingThere =
      (aggregate [firstProject, secondProject] {}).runIn nothingThere ∧
    ((aggregate [firstProject, secondProject] {}).runIn nothingThere).1 = .ok
      { secondProject with sources := [.ofString "a", .ofString "b", .ofString "c"] } := by
  have hfirst : ((aggregate [firstProject] {}).runIn nothingThere).1 =
      .ok { firstProject with style := none } := rfl
  have hsecond : ((aggregate [secondProject] {}).runIn nothingThere).1 = .ok secondProject := rfl
  exact ⟨hfirst, hsecond, aggregate_stages hfirst hsecond {} nothingThere, rfl⟩

end JavaBuild.Checkstyle
