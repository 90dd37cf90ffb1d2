import JavaBuild.Conflict
import JavaBuild.Proofs.Dictionary

/-!
# The conflicts that are reported

The analysis of valid entries reports exactly the ids that are in conflict, each with
the first artifact of each of its providers (`analyze_reports`). It follows from what
the loop over all artifacts leaves in the dictionary of providers
(`conflicts_eq`).
-/

namespace JavaBuild

/-! ## Valid entries -/

/-- An entry that is an artifact, or a group of one that is selected and others. -/
inductive ValidEntry where
  | bare (a : Artifact)
  | group (selected : Artifact) (alternates : List Artifact)

namespace ValidEntry

/-- The artifacts of an entry, selected ones and alternates alike. -/
def artifacts : ValidEntry → List Artifact
  | bare a => [a]
  | group selected alternates => selected :: alternates

/-- The value of an entry. -/
def value : ValidEntry → Value
  | bare a => .artifact a
  | group selected alternates => .providers ((selected :: alternates).map .artifact)

theorem mapM_asMember (as : List Artifact) :
    (as.map Value.artifact).mapM Value.asMember = .ok as := by
  induction as with
  | nil => rfl
  | cons a as ih =>
    rw [List.map_cons, List.mapM_cons, ih]
    rfl

theorem members_value (e : ValidEntry) : e.value.members = .ok e.artifacts := by
  cases e with
  | bare a => rfl
  | group selected alternates => exact mapM_asMember (selected :: alternates)

/-- The artifacts of valid entries are those that they carry. -/
theorem artifactsOf_value (es : List ValidEntry) :
    artifactsOf (es.map value) = .ok (es.flatMap artifacts) := by
  have hmembers : (es.map value).mapM Value.members = .ok (es.map artifacts) := by
    induction es with
    | nil => rfl
    | cons e es ih =>
      rw [List.map_cons, List.mapM_cons, members_value, ih]
      rfl
  rw [artifactsOf, hmembers]
  exact congrArg Except.ok List.flatMap_def.symm

/-- Valid entries are analysed. -/
theorem analyze_value (es : List ValidEntry) :
    analyze (es.map value) = .ok (conflicts (es.flatMap artifacts)) := by
  rw [analyze, artifactsOf_value]
  rfl

end ValidEntry

/-! ## Providers -/

variable {F : List Artifact} {id : String}

/-- Two artifacts with an id have different coordinates. -/
def InConflict (F : List Artifact) (id : String) : Prop :=
  ∃ a ∈ F, ∃ b ∈ F, a.id = id ∧ b.id = id ∧ a.coordinates ≠ b.coordinates

instance (F : List Artifact) : DecidablePred (InConflict F) := fun id =>
  inferInstanceAs (Decidable (∃ a ∈ F, ∃ b ∈ F, a.id = id ∧ b.id = id ∧
    a.coordinates ≠ b.coordinates))

/-- The first artifact of each provider of an id. -/
def firstProviders (F : List Artifact) (id : String) : List Artifact :=
  (firsts Artifact.coordinates F).filter fun a => a.id = id

theorem firstProviders_eq (F : List Artifact) (id : String) :
    firstProviders F id = firsts Artifact.coordinates (F.filter fun a => a.id = id) := by
  refine (firsts_filter (fun a b hab => ?_) F).symm
  have hid : a.id = b.id := congrArg Coordinates.id hab
  rw [hid]

/-- The providers of an id are recorded one after the other. -/
theorem entries_made (F : List Artifact) (id : String) :
    (made Artifact.id (Dictionary.empty : Providers) (fun a d => d.setDefault a.coordinates a) F
      id).entries = (firstProviders F id).map fun a => (a.coordinates, a) := by
  rw [made, entries_foldl_setDefault, firstProviders_eq]

theorem conflict?_made (F : List Artifact) (id : String) :
    conflict? id (made Artifact.id .empty (fun a d => d.setDefault a.coordinates a) F id) =
      if 1 < (firstProviders F id).length then some ⟨id, firstProviders F id⟩ else none := by
  rw [conflict?, Dictionary.values, entries_made, List.length_map, List.map_map]
  split
  · congr 2
    exact List.map_id _
  · rfl

/-- The conflict of an id is told by the first artifacts of its providers. -/
theorem conflicts_eq (F : List Artifact) :
    conflicts F = (((firsts Artifact.id F).map Artifact.id).filter fun id =>
      1 < (firstProviders F id).length).map fun id => ⟨id, firstProviders F id⟩ := by
  have hentries : (providersOf F).entries = _ :=
    entries_foldl_update Artifact.id Dictionary.empty (fun a d => d.setDefault a.coordinates a) F
  rw [conflicts, hentries, List.filterMap_map]
  induction firsts Artifact.id F with
  | nil => rfl
  | cons a as ih =>
    rw [List.filterMap_cons, ih, List.map_cons, List.filter_cons]
    simp only [Function.comp_apply, conflict?_made]
    by_cases h : 1 < (firstProviders F a.id).length
    · simp [h]
    · simp [h]

/-! ## Conflicts -/

theorem mem_firstProviders {a : Artifact} (h : a ∈ firstProviders F id) : a ∈ F ∧ a.id = id := by
  obtain ⟨ha, hid⟩ := List.mem_filter.1 h
  exact ⟨mem_of_mem_firsts ha, of_decide_eq_true hid⟩

/-- Each artifact has a provider with its coordinates. -/
theorem exists_mem_firstProviders {a : Artifact} (ha : a ∈ F) :
    ∃ p ∈ firstProviders F a.id, p.coordinates = a.coordinates := by
  have hmem : a.coordinates ∈ (firsts Artifact.coordinates F).map Artifact.coordinates :=
    mem_map_firsts.2 (List.mem_map_of_mem ha)
  obtain ⟨p, hp, hpa⟩ := List.mem_map.1 hmem
  exact ⟨p, List.mem_filter.2 ⟨hp, decide_eq_true (congrArg Coordinates.id hpa)⟩, hpa⟩

theorem pairwise_firstProviders (F : List Artifact) (id : String) :
    (firstProviders F id).Pairwise fun a b => a.coordinates ≠ b.coordinates :=
  (List.pairwise_map.1 (nodup_firsts Artifact.coordinates F)).filter _

/-- An id has several providers if it is in conflict. -/
theorem length_firstProviders : 1 < (firstProviders F id).length ↔ InConflict F id := by
  constructor
  · intro h
    have hpair := pairwise_firstProviders F id
    have hmem : ∀ a ∈ firstProviders F id, a ∈ F ∧ a.id = id := fun _ => mem_firstProviders
    generalize firstProviders F id = providers at *
    -- The first two of them are in conflict.
    obtain ⟨a, b, rest, rfl⟩ : ∃ a b rest, providers = a :: b :: rest := by
      match providers, h with
      | a :: b :: rest, _ => exact ⟨a, b, rest, rfl⟩
    obtain ⟨ha, hida⟩ := hmem a List.mem_cons_self
    obtain ⟨hb, hidb⟩ := hmem b (List.mem_cons_of_mem _ List.mem_cons_self)
    exact ⟨a, ha, b, hb, hida, hidb, (List.pairwise_cons.1 hpair).1 b List.mem_cons_self⟩
  · rintro ⟨a, ha, b, hb, rfl, hid, hne⟩
    obtain ⟨p, hp, hpa⟩ := exists_mem_firstProviders ha
    obtain ⟨q, hq, hqb⟩ := exists_mem_firstProviders hb
    rw [hid] at hq
    have hpq : p ≠ q := by
      rintro rfl
      exact hne (hpa.symm.trans hqb)
    -- A list with two different members has more than one.
    generalize firstProviders F a.id = providers at *
    match providers, hp, hq with
    | [x], hp, hq =>
      rw [List.mem_singleton.1 hp, List.mem_singleton.1 hq] at hpq
      exact absurd rfl hpq
    | _ :: _ :: _, _, _ => exact Nat.succ_lt_succ (Nat.zero_lt_succ _)

/-- A report tells the ids in conflict among artifacts, in the order in which they
    first occur, each with the first artifact of each of its providers. -/
structure Reports (F : List Artifact) (report : List Conflict) : Prop where
  ids : report.map Conflict.id = ((firsts Artifact.id F).map Artifact.id).filter (InConflict F ·)
  providers : ∀ c ∈ report,
    c.providers = (firsts Artifact.coordinates F).filter fun a => a.id = c.id
  /-- No id is told twice, and all that are in conflict are told. -/
  nodup : (report.map Conflict.id).Nodup
  mem_iff : ∀ id, id ∈ report.map Conflict.id ↔ InConflict F id
  /-- There are at least two providers, no two with the same coordinates, and none
      is lost. -/
  several : ∀ c ∈ report, 2 ≤ c.providers.length
  distinct : ∀ c ∈ report, c.providers.Pairwise fun a b => a.coordinates ≠ b.coordinates
  complete : ∀ c ∈ report, ∀ a ∈ F, a.id = c.id → ∃ p ∈ c.providers, p.coordinates = a.coordinates

theorem conflicts_reports (F : List Artifact) : Reports F (conflicts F) := by
  have hids : (conflicts F).map Conflict.id =
      ((firsts Artifact.id F).map Artifact.id).filter (InConflict F ·) := by
    rw [conflicts_eq, List.map_map]
    refine (List.map_id _).trans (List.filter_congr fun id _ => ?_)
    exact decide_eq_decide.2 length_firstProviders
  have hproviders : ∀ c ∈ conflicts F, c.providers = firstProviders F c.id := by
    intro c hc
    rw [conflicts_eq] at hc
    obtain ⟨id, -, rfl⟩ := List.mem_map.1 hc
    rfl
  have hmem : ∀ id, id ∈ (conflicts F).map Conflict.id ↔ InConflict F id := by
    intro id
    rw [hids, List.mem_filter, decide_eq_true_iff, mem_map_firsts]
    refine ⟨And.right, fun h => ⟨?_, h⟩⟩
    obtain ⟨a, ha, -, -, rfl, -⟩ := h
    exact List.mem_map_of_mem ha
  -- What is left follows from the providers of an id being its first artifacts.
  refine ⟨hids, hproviders, ?_, hmem, fun c hc => ?_, fun c hc => ?_, fun c hc a ha hid => ?_⟩
  · rw [hids]
    exact (nodup_firsts Artifact.id F).filter _
  · rw [hproviders c hc]
    exact length_firstProviders.2 ((hmem c.id).1 (List.mem_map_of_mem hc))
  · rw [hproviders c hc]
    exact pairwise_firstProviders F c.id
  · rw [hproviders c hc, ← hid]
    exact exists_mem_firstProviders ha

/-- Valid entries are analysed, and the conflicts among all their artifacts reported. -/
theorem analyze_reports (es : List ValidEntry) : ∃ report,
    analyze (es.map ValidEntry.value) = .ok report ∧
      Reports (es.flatMap ValidEntry.artifacts) report := by
  refine ⟨conflicts (es.flatMap ValidEntry.artifacts), ?_, conflicts_reports _⟩
  rw [analyze, ValidEntry.artifactsOf_value]
  rfl

end JavaBuild
