import JavaBuild.Proofs.Conflict

/-!
# Conflicts by coordinates

Which ids are reported, and the coordinates that are listed for them, depends on nothing but
the coordinates that entries carry: on neither the order of the entries nor their grouping,
the selected members, repetitions, types and classifiers (`analyze_coveredBy`). Further
coordinates never hide a conflict, since what is listed for an id is all coordinates with
this id, as soon as there are two of them (`Reports.mem_listed`).
-/

namespace JavaBuild

variable {F G : List Artifact} {x y : List Conflict} {c : Conflict} {id : String}
  {k : Coordinates}

/-- The coordinates that entries carry. -/
def ValidEntry.carried (es : List ValidEntry) : List Coordinates :=
  (es.flatMap artifacts).map Artifact.coordinates

/-- The coordinates of the providers in a conflict. -/
def Conflict.listed (c : Conflict) : List Coordinates := c.providers.map Artifact.coordinates

/-- The ids of a report are among those of another one, which lists for each of them at least
    the same coordinates. -/
structure CoveredBy (x y : List Conflict) : Prop where
  ids : x.map Conflict.id ⊆ y.map Conflict.id
  listed : ∀ c ∈ x, ∀ d ∈ y, c.id = d.id → c.listed ⊆ d.listed

/-- Two different coordinates with an id are enough for a conflict. -/
theorem inConflict_iff : InConflict F id ↔
    ∃ k ∈ F.map Artifact.coordinates, ∃ l ∈ F.map Artifact.coordinates,
      k.id = id ∧ l.id = id ∧ k ≠ l := by
  simp only [InConflict, List.mem_map, exists_exists_and_eq_and]
  exact Iff.rfl

/-- With more coordinates there are more conflicts. -/
theorem InConflict.mono (h : F.map Artifact.coordinates ⊆ G.map Artifact.coordinates)
    (hF : InConflict F id) : InConflict G id := by
  obtain ⟨k, hk, l, hl, hne⟩ := inConflict_iff.1 hF
  exact inConflict_iff.2 ⟨k, h hk, l, h hl, hne⟩

/-- For an id, all coordinates with this id are listed. -/
theorem Reports.mem_listed (h : Reports F x) (hc : c ∈ x) :
    k ∈ c.listed ↔ k ∈ F.map Artifact.coordinates ∧ k.id = c.id := by
  rw [Conflict.listed, h.providers c hc, List.mem_map]
  constructor
  · rintro ⟨a, ha, rfl⟩
    obtain ⟨hfirst, hid⟩ := List.mem_filter.1 ha
    exact ⟨List.mem_map_of_mem (mem_of_mem_firsts hfirst), of_decide_eq_true hid⟩
  · rintro ⟨hk, hid⟩
    obtain ⟨a, ha, rfl⟩ := List.mem_map.1 (mem_map_firsts.2 hk)
    exact ⟨a, List.mem_filter.2 ⟨ha, decide_eq_true hid⟩, rfl⟩

/-- A report on more coordinates covers one on fewer. -/
theorem Reports.coveredBy (hx : Reports F x) (hy : Reports G y)
    (h : F.map Artifact.coordinates ⊆ G.map Artifact.coordinates) : CoveredBy x y where
  ids id hid := (hy.mem_iff id).2 (((hx.mem_iff id).1 hid).mono h)
  listed c hc d hd hid k hk := by
    obtain ⟨hF, hkid⟩ := (hx.mem_listed hc).1 hk
    exact (hy.mem_listed hd).2 ⟨h hF, hkid.trans hid⟩

/-- If all coordinates of some entries are carried by others, too, so are the ids in conflict
    and the coordinates listed for them. So entries that carry the same coordinates report
    the same ids, with the same coordinates for each. -/
theorem analyze_coveredBy {X Y : List ValidEntry}
    (h : ValidEntry.carried X ⊆ ValidEntry.carried Y) : ∃ x y,
      analyze (X.map ValidEntry.value) = .ok x ∧ analyze (Y.map ValidEntry.value) = .ok y ∧
      CoveredBy x y ∧ (ValidEntry.carried Y ⊆ ValidEntry.carried X → CoveredBy y x) := by
  have hanalyze (es : List ValidEntry) : analyze (es.map ValidEntry.value) =
      .ok (conflicts (es.flatMap ValidEntry.artifacts)) := by
    rw [analyze, ValidEntry.artifactsOf_value]
    rfl
  have hX := conflicts_reports (X.flatMap ValidEntry.artifacts)
  have hY := conflicts_reports (Y.flatMap ValidEntry.artifacts)
  exact ⟨_, _, hanalyze X, hanalyze Y, hX.coveredBy hY h, hY.coveredBy hX⟩

/-- Two logging libraries, one of them in two versions. -/
def grouped : List ValidEntry :=
  [.group ⟨"g", "log", "1", "jar", none⟩ [⟨"g", "log", "2", "jar", none⟩],
    .bare ⟨"h", "api", "1", "jar", none⟩]

/-- The same libraries in another order, not grouped, with other types and classifiers, and
    one of them repeated. -/
def regrouped : List ValidEntry :=
  [.group ⟨"h", "api", "1", "pom", none⟩ [⟨"g", "log", "2", "jar", some "tests"⟩],
    .bare ⟨"g", "log", "1", "zip", none⟩, .bare ⟨"g", "log", "2", "jar", none⟩]

theorem analyze_coveredBy_regrouped :
    (ValidEntry.carried grouped ⊆ ValidEntry.carried regrouped ∧
      ValidEntry.carried regrouped ⊆ ValidEntry.carried grouped) ∧
    ∃ x y, analyze (grouped.map ValidEntry.value) = .ok x ∧
      analyze (regrouped.map ValidEntry.value) = .ok y ∧ CoveredBy x y ∧ CoveredBy y x ∧
      x.map (·.id) = ["log"] := by
  have hto : ValidEntry.carried grouped ⊆ ValidEntry.carried regrouped := by decide
  have hfrom : ValidEntry.carried regrouped ⊆ ValidEntry.carried grouped := by decide
  obtain ⟨x, y, hx, hy, hxy, hyx⟩ := analyze_coveredBy hto
  have hids : (analyze (grouped.map ValidEntry.value)).toOption.map (·.map (·.id)) =
      some ["log"] := by decide +kernel
  rw [hx] at hids
  exact ⟨⟨hto, hfrom⟩, x, y, hx, hy, hxy, hyx hfrom, Option.some.inj hids⟩

end JavaBuild
