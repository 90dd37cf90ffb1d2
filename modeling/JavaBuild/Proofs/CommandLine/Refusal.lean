import JavaBuild.CommandLine.Run
import JavaBuild.Proofs.FileTree.Access
import JavaBuild.Proofs.Result

/-!
# Lists that are refused

The analysis of conflicts checks all values of a list before it counts their artifacts, and
the tree is made while they are checked. Both refuse the same lists, those with a value that
is no entry (`IsEntry`). The first such value counts, and the error says why it is none
(`Unfit`). As no line is printed before the last value is checked, nothing is shown of a list
that is refused (`refused_alike`).
-/

namespace JavaBuild

variable {v : Value} {vs : List Value} {e : EntryError} {a : Artifact}

/-! ## Entries -/

namespace Value

def IsArtifact (v : Value) : Prop := ∃ a, v = artifact a

/-- An artifact, or a group that has members, all of which are artifacts. -/
inductive IsEntry : Value → Prop
  | bare (a : Artifact) : IsEntry (artifact a)
  | group {members : List Value} (hne : members ≠ []) (h : ∀ m ∈ members, IsArtifact m) :
    IsEntry (providers members)

/-- Why a value is no entry. Of the members of a group, the first that is no artifact counts. -/
inductive Unfit : Value → EntryError → Prop
  | missing : Unfit null .missing
  | noMembers : Unfit (providers []) .noMembers
  | strayMember {before after : List Value} {m : Value} (hbefore : ∀ b ∈ before, IsArtifact b)
    (hm : ¬IsArtifact m) : Unfit (providers (before ++ m :: after)) (.strayMember m)
  | unsupported {v : Value} (hnull : v ≠ null) (hbare : ¬IsArtifact v)
    (hgroup : ∀ members, v ≠ providers members) : Unfit v (.unsupported v)

theorem Unfit.not_isEntry (h : Unfit v e) : ¬IsEntry v := by
  intro hentry
  cases h with
  | missing => cases hentry
  | noMembers =>
    cases hentry with
    | group hne _ => exact hne rfl
  | strayMember hbefore hm =>
    cases hentry with
    | group _ hmembers => exact hm (hmembers _ List.mem_append_cons_self)
  | unsupported hnull hbare hgroup =>
    cases hentry with
    | bare a => exact hbare ⟨a, rfl⟩
    | group _ _ => exact hgroup _ rfl

theorem asMember_eq_ok_iff : v.asMember = .ok a ↔ v = artifact a := by
  cases v <;> simp [asMember]

theorem asMember_eq_error_iff : v.asMember = .error e ↔ ¬IsArtifact v ∧ e = .strayMember v := by
  cases v <;> simp [asMember, IsArtifact, eq_comm]

theorem isArtifact_iff : IsArtifact v ↔ ∃ a, v.asMember = .ok a := by
  simp only [asMember_eq_ok_iff, IsArtifact]

/-- The members of a group are told if they are artifacts, and else the first that is none. -/
theorem mapM_asMember_cases (vs : List Value) :
    ((∀ m ∈ vs, IsArtifact m) ∧ ∃ as, vs.mapM asMember = .ok as) ∨
      ∃ before m after, vs = before ++ m :: after ∧ (∀ b ∈ before, IsArtifact b) ∧
        ¬IsArtifact m ∧ vs.mapM asMember = .error (.strayMember m) := by
  simp only [isArtifact_iff]
  cases hvs : vs.mapM asMember with
  | ok as => exact .inl ⟨(mapM_eq_ok hvs).1, as, rfl⟩
  | error e =>
    obtain ⟨before, m, after, rfl, hbefore, hm⟩ := mapM_eq_error_iff.1 hvs
    obtain ⟨hstray, rfl⟩ := asMember_eq_error_iff.1 hm
    exact .inr ⟨before, m, after, rfl, hbefore, mt isArtifact_iff.2 hstray, rfl⟩

/-- A value is an entry and carries artifacts, or an error says why it is none. -/
theorem members_cases (v : Value) :
    (IsEntry v ∧ ∃ as, v.members = .ok as) ∨ ∃ e, Unfit v e ∧ v.members = .error e := by
  cases v with
  | null => exact .inr ⟨_, .missing, rfl⟩
  | artifact a => exact .inl ⟨.bare a, [a], rfl⟩
  | providers vs =>
    cases vs with
    | nil => exact .inr ⟨_, .noMembers, rfl⟩
    | cons first rest =>
      have hmembers : members (providers (first :: rest)) = (first :: rest).mapM asMember := rfl
      rw [hmembers]
      rcases mapM_asMember_cases (first :: rest) with
        ⟨hall, as, has⟩ | ⟨before, m, after, hvs, hbefore, hm, he⟩
      · exact .inl ⟨.group (List.cons_ne_nil _ _) hall, as, has⟩
      · rw [he, hvs]
        exact .inr ⟨_, .strayMember hbefore hm, rfl⟩
  | _ => exact .inr ⟨_, .unsupported nofun nofun nofun, rfl⟩

theorem isEntry_iff : IsEntry v ↔ ∃ as, v.members = .ok as := by
  rcases v.members_cases with ⟨hentry, hok⟩ | ⟨e, hunfit, he⟩
  · exact iff_of_true hentry hok
  · exact iff_of_false hunfit.not_isEntry (by simp [he])

theorem exists_unfit (h : ¬IsEntry v) : ∃ e, Unfit v e ∧ v.members = .error e :=
  v.members_cases.resolve_left fun hentry => h hentry.1

end Value

/-! ## Lists -/

open Value (IsEntry Unfit)
open CommandLine (tellConflicts showTree)

theorem analyze_eq_error_iff : analyze vs = .error e ↔ vs.mapM Value.members = .error e := by
  rw [analyze, artifactsOf, map_eq_error_iff, map_eq_error_iff]

/-- The tree is refused as the analysis is, though lines are made on the way. -/
theorem treeLines_eq_error_iff : treeLines vs = .error e ↔ vs.mapM Value.members = .error e := by
  have hfails (v : Value) (e : EntryError) :
      (v.members.map memberLines) = .error e ↔ v.members = .error e := map_eq_error_iff
  have hgoes (v : Value) :
      (∃ lines, v.members.map memberLines = .ok lines) ↔ ∃ as, v.members = .ok as := by
    cases v.members <;> simp [Except.map]
  rw [treeLines, map_eq_error_iff, mapM_eq_error_iff, mapM_eq_error_iff]
  simp only [hfails, hgoes]

theorem exists_mapM_members_iff :
    (∃ e, vs.mapM Value.members = .error e) ↔ ∃ v ∈ vs, ¬IsEntry v := by
  constructor
  · rintro ⟨e, he⟩
    obtain ⟨v, hv, hfails⟩ := exists_of_mapM_eq_error he
    refine ⟨v, hv, fun hentry => ?_⟩
    obtain ⟨as, has⟩ := Value.isEntry_iff.1 hentry
    rw [has] at hfails
    cases hfails
  · rintro ⟨v, hv, hentry⟩
    cases hall : vs.mapM Value.members with
    | error e => exact ⟨e, rfl⟩
    -- All values would be entries, this one too.
    | ok as => exact absurd (Value.isEntry_iff.2 ((mapM_eq_ok hall).1 v hv)) hentry

/-- The analysis and the tree refuse the lists with a value that is no entry, both with the
    error of the first such value, and before anything is printed. -/
theorem refused_alike (vs : List Value) (s : Session) :
    ((∃ e, analyze vs = .error e) ↔ ∃ v ∈ vs, ¬IsEntry v) ∧
    ((∃ e, treeLines vs = .error e) ↔ ∃ v ∈ vs, ¬IsEntry v) ∧
    ∀ before v after, vs = before ++ v :: after → (∀ u ∈ before, IsEntry u) → ¬IsEntry v →
      ∃ e, Unfit v e ∧ v.members = .error e ∧
        analyze vs = .error e ∧ (tellConflicts vs).runIn s = (.error (.entry e), s) ∧
        treeLines vs = .error e ∧ (showTree vs).runIn s = (.error (.entry e), s) := by
  simp only [analyze_eq_error_iff, treeLines_eq_error_iff]
  refine ⟨exists_mapM_members_iff, exists_mapM_members_iff, fun before v after hvs hbefore hv => ?_⟩
  obtain ⟨e, hunfit, he⟩ := Value.exists_unfit hv
  have hfirst : vs.mapM Value.members = .error e :=
    mapM_eq_error_iff.2 ⟨before, v, after, hvs, fun u hu => Value.isEntry_iff.1 (hbefore u hu), he⟩
  refine ⟨e, hunfit, he, hfirst, ?_, hfirst, ?_⟩
  · rw [tellConflicts, Work.runIn_bind, Work.runIn_ofExcept, analyze_eq_error_iff.2 hfirst]
    rfl
  · rw [showTree, Work.runIn_bind, Work.runIn_ofExcept, treeLines_eq_error_iff.2 hfirst]
    rfl

/-- An artifact, … -/
def firstRelease : Artifact := ⟨"g", "a", "1", "jar", none⟩

/-- … and another one that provides the same. -/
def secondRelease : Artifact := ⟨"g", "a", "2", "jar", none⟩

/-- A group with two members that are no artifacts. -/
def strayGroup : Value := .providers [.artifact firstRelease, .text "g:a:2", .null]

/-- A conflict before the group is not told, and the first of its two stray members counts. -/
theorem refused_strayGroup :
    analyze [.artifact firstRelease, .artifact secondRelease] =
      .ok [⟨"a", [firstRelease, secondRelease]⟩] ∧
    Unfit strayGroup (.strayMember (.text "g:a:2")) ∧
    ∃ e, strayGroup.members = .error e ∧
      e.message = "Provider group member 'g:a:2' is not an artifact" ∧
      (tellConflicts [.artifact firstRelease, .artifact secondRelease, strayGroup, .null]).runIn
        ⟨.holding [], [], [], []⟩ = (.error (.entry e), ⟨.holding [], [], [], []⟩) ∧
      (showTree [.artifact firstRelease, .artifact secondRelease, strayGroup, .null]).runIn
        ⟨.holding [], [], [], []⟩ = (.error (.entry e), ⟨.holding [], [], [], []⟩) := by
  have hbefore : ∀ v ∈ [Value.artifact firstRelease, .artifact secondRelease], IsEntry v := by
    simp [IsEntry.bare]
  have hunfit : Unfit strayGroup (.strayMember (.text "g:a:2")) :=
    @Unfit.strayMember [.artifact firstRelease] [.null] (.text "g:a:2") (by simp [Value.IsArtifact])
      (by simp [Value.IsArtifact])
  obtain ⟨e, -, he, -, htell, -, hshow⟩ := (refused_alike _ _).2.2 _ _ [.null] rfl hbefore
    hunfit.not_isEntry
  cases he
  exact ⟨rfl, hunfit, _, rfl, by decide +kernel, htell, hshow⟩

end JavaBuild
