import JavaBuild.Proofs.CommandLine.Refusal
import JavaBuild.Proofs.Conflict

/-!
# Making entries

An artifact is given as it is or by a spec (`Value.StandsFor`), and an entry is made of what
gives one artifact, or of a list of such values that is not empty (`Value.Makes`). Besides, a
group is passed as it is, whatever its members are; all else is refused (`Value.Acceptable`).
So what has been made is an entry that carries the artifacts that were given, and making an
entry of it once more changes nothing (`Value.toEntry_normalises`).
-/

namespace JavaBuild

namespace Value

variable {v r : Value} {items : List Value} {a : Artifact} {as : List Artifact} {e : EntryError}

/-! ## What gives artifacts -/

/-- An artifact, or the spec of one. -/
inductive StandsFor : Value → Artifact → Prop
  | artifact (a : Artifact) : StandsFor (artifact a) a
  | spec {s : String} {a : Artifact} (h : Artifact.ofSpec s = .ok a) : StandsFor (text s) a

/-- A value is converted to an artifact exactly if it stands for it. -/
theorem toArtifact_eq_ok_iff : v.toArtifact = .ok a ↔ StandsFor v a := by
  constructor
  · intro h
    cases v with
    | artifact b =>
      cases h
      exact .artifact a
    | text s => exact .spec h
    | _ => cases h
  · rintro (_ | h)
    · rfl
    · exact h

/-- Items stand for artifacts one by one. -/
theorem mapM_toArtifact_eq_ok_iff :
    items.mapM toArtifact = .ok as ↔ List.Forall₂ StandsFor items as := by
  rw [mapM_eq_ok_iff]
  simp only [toArtifact_eq_ok_iff]

theorem exists_forall₂_standsFor_iff :
    (∃ as, List.Forall₂ StandsFor items as) ↔ ∀ item ∈ items, ∃ a, StandsFor item a := by
  simp only [← mapM_toArtifact_eq_ok_iff, exists_mapM_eq_ok_iff, toArtifact_eq_ok_iff]

/-- A value that has items, of fixed length or not. -/
def Lists (v : Value) (items : List Value) : Prop := v = list items ∨ v = tuple items

/-- A value gives artifacts, of which an entry is made. -/
inductive Makes : Value → List Artifact → Value → Prop
  | bare {v : Value} {a : Artifact} (h : StandsFor v a) : Makes v [a] (artifact a)
  | group {v : Value} {items : List Value} {as : List Artifact} (hlist : Lists v items)
    (hne : items ≠ []) (h : List.Forall₂ StandsFor items as) :
    Makes v as (providers (as.map artifact))

/-- A value that is an artifact or a spec, a group, or a list of artifacts and specs that is not
    empty. -/
inductive Acceptable : Value → Prop
  | bare {v : Value} {a : Artifact} (h : StandsFor v a) : Acceptable v
  | group (members : List Value) : Acceptable (providers members)
  | list {v : Value} {items : List Value} (hlist : Lists v items) (hne : items ≠ [])
    (h : ∀ item ∈ items, ∃ a, StandsFor item a) : Acceptable v

/-- What can be accepted is a group that is one already, or what makes an entry. -/
theorem acceptable_iff :
    Acceptable v ↔ (∃ members, v = providers members) ∨ ∃ as r, Makes v as r := by
  constructor
  · intro h
    cases h with
    | bare h => exact .inr ⟨_, _, .bare h⟩
    | group members => exact .inl ⟨members, rfl⟩
    | list hlist hne h =>
      obtain ⟨as, has⟩ := exists_forall₂_standsFor_iff.2 h
      exact .inr ⟨as, _, .group hlist hne has⟩
  · rintro (⟨members, rfl⟩ | ⟨as, r, h | ⟨hlist, hne, h⟩⟩)
    · exact .group members
    · exact .bare h
    · exact .list hlist hne (exists_forall₂_standsFor_iff.1 ⟨as, h⟩)

/-! ## Which entries are made -/

/-- Items make a group exactly if there are any, and each stands for an artifact. -/
theorem toProviders_eq_ok_iff : toProviders items = .ok r ↔
    items ≠ [] ∧ ∃ as, List.Forall₂ StandsFor items as ∧ providers (as.map artifact) = r := by
  rw [toProviders]
  split
  · rename_i hempty
    simp [List.isEmpty_iff.1 hempty]
  · rename_i hne
    rw [map_eq_ok_iff]
    simp only [mapM_toArtifact_eq_ok_iff]
    exact (and_iff_right (mt List.isEmpty_iff.2 hne)).symm

theorem toEntry_of_lists (hlist : Lists v items) : v.toEntry = toProviders items := by
  rcases hlist with rfl | rfl <;> rfl

/-- What is neither a group nor a list has to stand for an artifact itself. -/
theorem toEntry_eq_ok_iff_of_single (hgroup : ∀ members, v ≠ providers members)
    (hlist : ∀ items, ¬Lists v items) :
    v.toEntry = .ok r ↔ ∃ a, StandsFor v a ∧ artifact a = r := by
  cases v with
  | null =>
    refine iff_of_false (by simp [toEntry]) ?_
    rintro ⟨a, h, -⟩
    cases h
  | providers members => exact absurd rfl (hgroup members)
  | list items => exact absurd (.inl rfl) (hlist items)
  | tuple items => exact absurd (.inr rfl) (hlist items)
  | _ => simp only [toEntry, map_eq_ok_iff, toArtifact_eq_ok_iff]

/-- What stands for an artifact is no list. -/
theorem StandsFor.not_lists (h : StandsFor v a) (items : List Value) : ¬Lists v items := by
  rintro (rfl | rfl) <;> cases h

theorem Makes.ne_providers (h : Makes v as r) (members : List Value) : v ≠ providers members := by
  rintro rfl
  rcases h with h | ⟨h | h, -, -⟩ <;> cases h

/-- A group is passed as it is, and other entries are made of what gives artifacts. -/
theorem toEntry_eq_ok_iff : v.toEntry = .ok r ↔
    ((∃ members, v = providers members) ∧ r = v) ∨ ∃ as, Makes v as r := by
  by_cases hgroup : ∃ members, v = providers members
  · obtain ⟨members, rfl⟩ := hgroup
    have hnone : ¬∃ as, Makes (providers members) as r := fun ⟨as, h⟩ => h.ne_providers members rfl
    simp [toEntry, hnone, eq_comm]
  · simp only [hgroup, false_and, false_or]
    -- A value has items to make a group of, or is a single one.
    constructor
    · intro h
      by_cases hlist : ∃ items, Lists v items
      · obtain ⟨items, hitems⟩ := hlist
        rw [toEntry_of_lists hitems, toProviders_eq_ok_iff] at h
        obtain ⟨hne, as, has, rfl⟩ := h
        exact ⟨as, .group hitems hne has⟩
      · rw [toEntry_eq_ok_iff_of_single (not_exists.1 hgroup) (not_exists.1 hlist)] at h
        obtain ⟨a, ha, rfl⟩ := h
        exact ⟨[a], .bare ha⟩
    · rintro ⟨as, h⟩
      cases h with
      | bare h =>
        exact (toEntry_eq_ok_iff_of_single (not_exists.1 hgroup) h.not_lists).2 ⟨_, h, rfl⟩
      | group hlist hne has =>
        rw [toEntry_of_lists hlist, toProviders_eq_ok_iff]
        exact ⟨hne, as, has, rfl⟩

/-- A value makes an entry exactly if it can be accepted, … -/
theorem exists_toEntry_eq_ok_iff : (∃ r, v.toEntry = .ok r) ↔ Acceptable v := by
  simp only [toEntry_eq_ok_iff, acceptable_iff]
  constructor
  · rintro ⟨r, ⟨hgroup, -⟩ | ⟨as, h⟩⟩
    · exact .inl hgroup
    · exact .inr ⟨as, r, h⟩
  · rintro (hgroup | ⟨as, r, h⟩)
    · exact ⟨v, .inl ⟨hgroup, rfl⟩⟩
    · exact ⟨r, .inr ⟨as, h⟩⟩

/-- … and is refused exactly if it cannot. -/
theorem exists_toEntry_eq_error_iff : (∃ e, v.toEntry = .error e) ↔ ¬Acceptable v := by
  rw [← exists_toEntry_eq_ok_iff]
  cases v.toEntry <;> simp

/-! ## What has been made -/

/-- An entry that has been made makes itself. -/
theorem Makes.toEntry_eq (h : Makes v as r) : r.toEntry = .ok r := by
  cases h <;> rfl

/-- What has been made carries the artifacts that were given. -/
theorem Makes.members_eq (h : Makes v as r) : r.members = .ok as := by
  cases h with
  | bare h => rfl
  | group hlist hne has =>
    obtain ⟨a, as, rfl⟩ : ∃ a as', as = a :: as' := by
      refine List.exists_cons_of_ne_nil ?_
      rintro rfl
      exact hne (List.forall₂_nil_right_iff.1 has)
    exact ValidEntry.members_value (.group a as)

theorem Makes.isEntry (h : Makes v as r) : IsEntry r := isEntry_iff.2 ⟨as, h.members_eq⟩

/-- An entry that has been made of a value, unless it is a group that is none. -/
theorem isEntry_of_toEntry (h : v.toEntry = .ok r)
    (hgroup : ∀ members, v = providers members → IsEntry v) : IsEntry r := by
  rcases toEntry_eq_ok_iff.1 h with ⟨⟨members, hv⟩, rfl⟩ | ⟨as, hmakes⟩
  · exact hgroup members hv
  · exact hmakes.isEntry

end Value

/-! ## Lists of values -/

open Value (Acceptable IsEntry Makes StandsFor)

variable {vs : List Value}

/-- Entries have members. -/
theorem mapM_members_ne_error (h : ∀ v ∈ vs, IsEntry v) (e : EntryError) :
    vs.mapM Value.members ≠ .error e := by
  intro he
  obtain ⟨v, hv, hnone⟩ := exists_mapM_members_iff.1 ⟨e, he⟩
  exact hnone (h v hv)

/-- Entries can be analyzed, … -/
theorem exists_analyze_eq_ok (h : ∀ v ∈ vs, IsEntry v) : ∃ report, analyze vs = .ok report := by
  cases hanalyze : analyze vs with
  | ok report => exact ⟨report, rfl⟩
  | error e => exact absurd (analyze_eq_error_iff.1 hanalyze) (mapM_members_ne_error h e)

/-- … and shown as a tree. -/
theorem exists_treeLines_eq_ok (h : ∀ v ∈ vs, IsEntry v) : ∃ lines, treeLines vs = .ok lines := by
  cases htree : treeLines vs with
  | ok lines => exact ⟨lines, rfl⟩
  | error e => exact absurd (treeLines_eq_error_iff.1 htree) (mapM_members_ne_error h e)

/-- Making an entry of an entry changes nothing. Unless it is a group that was passed, an entry
    carries the artifacts that were given, in their order, one for each of the values that stand
    for them. Only what is acceptable makes an entry. So of values that make entries, among which
    all groups are entries, the conflicts are found and the tree is shown. -/
theorem Value.toEntry_normalises :
    (∀ v r : Value, v.toEntry = .ok r →
      r.toEntry = .ok r ∧
        ((∀ members, v ≠ .providers members) → ∃ as, Makes v as r ∧ r.members = .ok as)) ∧
    (∀ v : Value, (∃ e, v.toEntry = .error e) ↔ ¬Acceptable v) ∧
    ∀ vs rs : List Value, Value.toEntries vs = .ok rs →
      (∀ v ∈ vs, ∀ members, v = .providers members → IsEntry v) →
      (∃ report, analyze rs = .ok report) ∧ ∃ lines, treeLines rs = .ok lines := by
  refine ⟨fun v r h => ?_, fun v => exists_toEntry_eq_error_iff, fun vs rs h hgroups => ?_⟩
  · rcases toEntry_eq_ok_iff.1 h with ⟨⟨members, rfl⟩, rfl⟩ | ⟨as, hmakes⟩
    · exact ⟨rfl, fun hgroup => absurd rfl (hgroup members)⟩
    · exact ⟨hmakes.toEntry_eq, fun _ => ⟨as, hmakes, hmakes.members_eq⟩⟩
  · -- Each entry has been made of one of the values.
    have hentries : ∀ r ∈ rs, IsEntry r := by
      intro r hr
      obtain ⟨v, hv, hmake⟩ := ((mapM_eq_ok h).2 r).1 hr
      exact isEntry_of_toEntry hmake (hgroups v hv)
    exact ⟨exists_analyze_eq_ok hentries, exists_treeLines_eq_ok hentries⟩

/-- A spec with a line feed behind it, and an artifact. -/
def mixedTuple : Value := .tuple [.text "g:b:pom:1\n", .artifact firstRelease]

/-- They make a group, but a list of such a tuple is refused. -/
theorem Value.toEntry_normalises_mixedTuple : ∃ r, mixedTuple.toEntry = .ok r ∧
    (∀ members, mixedTuple ≠ .providers members) ∧ r.toEntry = .ok r ∧
    r.members = .ok [⟨"g", "b", "1", "pom", none⟩, firstRelease] ∧
    (Value.list [mixedTuple]).toEntry = .error (.notSpec mixedTuple) ∧
    ¬Acceptable (.list [mixedTuple]) ∧
    Value.toEntries [mixedTuple, .artifact firstRelease] = .ok [r, .artifact firstRelease] ∧
    ∃ lines, treeLines [r, .artifact firstRelease] = .ok lines := by
  have hread : Artifact.ofSpec? "g:b:pom:1\n" = some ⟨"g", "b", "1", "pom", none⟩ := by
    decide +kernel
  have hspec : Artifact.ofSpec "g:b:pom:1\n" = .ok ⟨"g", "b", "1", "pom", none⟩ := by
    rw [Artifact.ofSpec, hread]
  have hmakes : Makes mixedTuple _ _ := .group (.inr rfl) (List.cons_ne_nil _ _)
    (.cons (.spec hspec) (.cons (.artifact firstRelease) .nil))
  have hentry := toEntry_eq_ok_iff.2 (.inr ⟨_, hmakes⟩)
  have hentries : Value.toEntries [mixedTuple, .artifact firstRelease] =
      .ok [_, .artifact firstRelease] :=
    mapM_eq_ok_iff.2 (.cons hentry (.cons rfl .nil))
  obtain ⟨hmade, hrefused, hlists⟩ := Value.toEntry_normalises
  have hgroups : ∀ v ∈ [mixedTuple, .artifact firstRelease], ∀ members,
      v = .providers members → IsEntry v := by
    simp [mixedTuple]
  have hnested : (Value.list [mixedTuple]).toEntry = .error (.notSpec mixedTuple) := rfl
  exact ⟨_, hentry, hmakes.ne_providers, (hmade _ _ hentry).1, hmakes.members_eq, hnested,
    (hrefused _).1 ⟨_, hnested⟩, hentries, (hlists _ _ hentries hgroups).2⟩

end JavaBuild
