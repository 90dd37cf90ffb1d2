import JavaBuild.Proofs.Pom.Reference

/-!
# References that are left

The last text of a chain within reach is the result of resolving the first one
(`resolve_eq_some_iff`), even if a reference is left in it. So a text is resolved wholly, or else
left as it is, unless what is pointed to from it ends at another text with a reference
(`resolvesWholly_iff`).
-/

namespace JavaBuild.Pom

variable {properties : Properties} {s : String} {depth : Int}

/-- Resolving gives the value that it is given, or one without a reference. -/
def ResolvesWholly (properties : Properties) (depth : Int) (value : Option String) : Prop :=
  resolve properties value depth = value ∨
    ∀ t ∈ resolve properties value depth, ¬HoldsReference t

/-- What a text points to ends at another text, in which a reference is left. -/
def LeavesReference (properties : Properties) (depth : Int) (s t : String) : Prop :=
  StopsAt properties (reachFrom depth) s t ∧ HoldsReference t ∧ t ≠ s

theorem resolve_none (properties : Properties) (depth : Int) :
    resolve properties none depth = none := by
  rw [resolve]
  cases (maxDepth + 1 - depth).toNat <;> rfl

theorem resolvesWholly_some_iff : ResolvesWholly properties depth (some s) ↔
    ∀ t, resolve properties (some s) depth = some t → HoldsReference t → t = s := by
  constructor
  · rintro (hsame | hfree) t ht hholds
    · exact Option.some.inj (ht.symm.trans hsame)
    · exact absurd hholds (hfree t ht)
  · intro h
    by_cases hsame : resolve properties (some s) depth = some s
    · exact .inl hsame
    · refine .inr fun t ht hholds => hsame ?_
      obtain rfl := h t ht hholds
      exact ht

/-- A value is resolved wholly, or is left as it is, unless it is a text that points on and on to
    another one with a reference: one to which there is no property, a text that holds a reference
    besides others, or the last one in reach of a chain that goes on. That one is the result. -/
theorem resolvesWholly_iff (properties : Properties) (depth : Int) (value : Option String) :
    (ResolvesWholly properties depth value ↔
      ∀ s ∈ value, ∀ t, ¬LeavesReference properties depth s t) ∧
    ∀ s t, LeavesReference properties depth s t → resolve properties (some s) depth = some t := by
  refine ⟨?_, fun s t h => resolve_eq_some_iff.2 h.1⟩
  cases value with
  | none => simp [ResolvesWholly, resolve_none]
  | some s =>
    simp only [resolvesWholly_some_iff, resolve_eq_some_iff]
    constructor
    · rintro h _ ⟨⟩ t ⟨hstop, hholds, hne⟩
      exact hne (h t hstop hholds)
    · intro h t hstop hholds
      by_contra hne
      exact h s rfl t ⟨hstop, hholds, hne⟩

/-- A property by way of another one, whose value holds a reference besides other text. -/
def brokenLinks : Properties := [("a", some (reference "b")), ("b", some (reference "c" ++ "-1"))]

theorem leavesReference_brokenLinks :
    LeavesReference brokenLinks 0 (reference "a") (reference "c" ++ "-1") := by
  have hfirst : PointsTo brokenLinks (reference "a") (some (reference "b")) :=
    pointsTo_iff.2 (by decide)
  have hsecond : PointsTo brokenLinks (reference "b") (some (reference "c" ++ "-1")) :=
    pointsTo_iff.2 (by decide)
  have hpart : referenceName? (reference "c" ++ "-1") = none := by decide
  have hend (value : Option String) : ¬PointsTo brokenLinks (reference "c" ++ "-1") value := by
    simp [pointsTo_iff, hpart]
  exact ⟨⟨2, by decide, .step hfirst (.step hsecond (.refl _)), .inr hend⟩, by decide, by decide⟩

theorem resolvesWholly_iff_brokenLinks :
    LeavesReference brokenLinks 0 (reference "a") (reference "c" ++ "-1") ∧
    resolve brokenLinks (some (reference "a")) 0 = some (reference "c" ++ "-1") ∧
    ¬ResolvesWholly brokenLinks 0 (some (reference "a")) := by
  obtain ⟨hwholly, hresult⟩ := resolvesWholly_iff brokenLinks 0 (some (reference "a"))
  exact ⟨leavesReference_brokenLinks, hresult _ _ leavesReference_brokenLinks,
    fun h => hwholly.1 h _ rfl _ leavesReference_brokenLinks⟩

/-- A reference to a reference that there is no property for is not left as it is. -/
theorem not_forall_resolvesWholly :
    ¬∀ (properties : Properties) (value : Option String), ResolvesWholly properties 0 value := by
  intro h
  have hvalue : resolve [("a", some (reference "b"))] (some (reference "a")) 0 =
      some (reference "b") := by
    decide +kernel
  have hsame := resolvesWholly_some_iff.1 (h _ _) _ hvalue (holdsReference_reference "b")
  exact absurd hsame (by decide)

end JavaBuild.Pom
