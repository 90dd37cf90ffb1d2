import JavaBuild.Proofs.Pom.Reference

/-!
# The keys of a name

A name that is no key itself is meant to be tried without a `project.` at its start. But
wherever `project.` occurs in a name it is dropped (`DropsProject.eq_or_shorter`), so a name
that has it behind its start (`HasInnerProject`) can stand for an unrelated property, and is
not tried by the key that it should be. All other names are looked up as they are meant to be
(`resolvesByStart_iff`).
-/

namespace JavaBuild.Pom

variable {properties : Properties} {name key : String} {cs ds : List Char}

/-- Somewhere behind its first character, a name has a `project.`. -/
def HasInnerProject (name : String) : Prop := projectPart <:+: name.toList.tail

instance : DecidablePred HasInnerProject := fun name =>
  inferInstanceAs (Decidable (projectPart <:+: name.toList.tail))

/-! ## Names without any `project.` -/

/-- Dropping each `project.` from a name leaves the name, or makes it shorter if there is one. -/
theorem DropsProject.eq_or_shorter (h : DropsProject cs ds) :
    (¬projectPart <:+: cs ∧ ds = cs) ∨ (projectPart <:+: cs ∧ ds.length < cs.length) := by
  induction h with
  | nil => exact .inl ⟨by decide, rfl⟩
  -- What is left of the rest is no longer than the rest, and the part is gone.
  | @part cs ds _ ih =>
    have hle : ds.length ≤ cs.length := ih.elim (fun h => h.2 ▸ le_rfl) fun h => h.2.le
    have hpart : 0 < projectPart.length := by decide
    refine .inr ⟨List.infix_append_left, ?_⟩
    rw [List.length_append]
    omega
  | char hc _ ih =>
    rcases ih with ⟨hnone, rfl⟩ | ⟨hsome, hlt⟩
    · refine .inl ⟨fun h => ?_, rfl⟩
      exact (List.infix_cons_iff.1 h).elim hc hnone
    · exact .inr ⟨List.infix_cons hsome, Nat.succ_lt_succ hlt⟩

theorem dropProject_eq_self (h : ¬projectPart <:+: cs) : dropProject 0 cs = cs :=
  ((dropsProject_dropProject cs).eq_or_shorter.resolve_right fun hc => h hc.1).2

theorem length_dropProject_lt (h : projectPart <:+: cs) :
    (dropProject 0 cs).length < cs.length :=
  ((dropsProject_dropProject cs).eq_or_shorter.resolve_left fun hc => hc.1 h).2

theorem not_projectPart_starts {c : Char} (hc : c ≠ 'p') : ¬projectPart <+: c :: cs := by
  intro h
  exact hc (List.cons_prefix_cons.1 h).1.symm

/-- A `project.` that starts inside of another one starts behind it. -/
theorem infix_projectPart_tail_append (cs : List Char) :
    projectPart <:+: projectPart.tail ++ cs ↔ projectPart <:+: cs := by
  have htail : projectPart.tail = ['r', 'o', 'j', 'e', 'c', 't', '.'] := rfl
  simp only [htail, List.cons_append, List.nil_append, List.infix_cons_iff]
  simp [not_projectPart_starts]

/-! ## Names by their start -/

theorem hasInnerProject_iff_of_other_start (h : ¬projectPart <+: name.toList) :
    HasInnerProject name ↔ projectPart <:+: name.toList := by
  rw [HasInnerProject]
  cases hname : name.toList with
  | nil => rfl
  | cons c cs =>
    rw [hname] at h
    rw [List.infix_cons_iff, List.tail_cons, or_iff_right h]

theorem toList_project (rest : String) :
    ("project." ++ rest).toList = projectPart ++ rest.toList :=
  String.toList_append

theorem hasInnerProject_project (rest : String) :
    HasInnerProject ("project." ++ rest) ↔ projectPart <:+: rest.toList := by
  have htail : ("project." ++ rest).toList.tail = projectPart.tail ++ rest.toList := by
    rw [toList_project]
    rfl
  rw [HasInnerProject, htail, infix_projectPart_tail_append]

/-- A name that starts with `project.` goes on with a name. -/
theorem exists_eq_project (h : projectPart <+: name.toList) :
    ∃ rest, name = "project." ++ rest := by
  obtain ⟨cs, hcs⟩ := h
  refine ⟨String.ofList cs, String.toList_injective ?_⟩
  rw [toList_project, String.toList_ofList, hcs]

/-! ## Looking up -/

theorem property?_eq_or (properties : Properties) (name : String) : property? properties name =
    (properties.lookup name).or
      (properties.lookup (String.ofList (dropProject 0 name.toList))) := by
  rw [property?, candidates, List.findSome?_cons, List.findSome?_singleton]
  cases properties.lookup name <;> rfl

/-- Without any `project.` in it, a name is tried as it is only. -/
theorem property?_of_no_project (h : ¬projectPart <:+: name.toList) :
    property? properties name = properties.lookup name := by
  rw [property?_eq_or, dropProject_eq_self h, String.ofList_toList, Option.or_self]

/-- With a single one at its start, it is tried without it, too. -/
theorem property?_project {rest : String} (h : ¬projectPart <:+: rest.toList) :
    property? properties ("project." ++ rest) =
      (properties.lookup ("project." ++ rest)).or (properties.lookup rest) := by
  rw [property?_eq_or, toList_project, dropProject_projectPart, dropProject_eq_self h,
    String.ofList_toList]

/-- A reference tells its name. -/
theorem referenceName?_reference (hline : '\n' ∉ name.toList) (hname : name ≠ "") :
    referenceName? (reference name) = some name :=
  referenceName?_eq_some_iff.2 ⟨hname, hline, .inl rfl⟩

/-- A reference to a name that is no property stands for itself. -/
theorem resolve_reference_of_none (hline : '\n' ∉ name.toList)
    (h : property? properties name = none) (depth : Int) :
    resolve properties (some (reference name)) depth = some (reference name) := by
  have hnone : (referenceName? (reference name)).bind (property? properties) = none := by
    by_cases hname : name = ""
    · subst hname
      rfl
    · rw [referenceName?_reference hline hname]
      exact h
  rw [resolve]
  cases (maxDepth + 1 - depth).toNat with
  | zero => rfl
  | succ n => rw [resolveIn, hnone]

/-- A name is not what is left of a name that has a `project.` anywhere. -/
theorem dropped_ne (h : projectPart <:+: name.toList) :
    String.ofList (dropProject 0 name.toList) ≠ name := by
  intro hsame
  have hshorter := length_dropProject_lt h
  rw [← String.toList_inj, String.toList_ofList] at hsame
  rw [hsame] at hshorter
  exact Nat.lt_irrefl _ hshorter

theorem lookup_singleton_of_ne {value : Option String} (h : key ≠ name) :
    List.lookup name [(key, value)] = none := by
  rw [List.lookup_cons, beq_eq_false_iff_ne.2 h.symm]
  rfl

/-- A name with a `project.` anywhere stands for the property of what is left of it. -/
theorem resolve_reference_of_project (hline : '\n' ∉ name.toList)
    (h : projectPart <:+: name.toList) :
    resolve [(String.ofList (dropProject 0 name.toList), some "1")] (some (reference name)) 0 =
      some "1" := by
  have hname : name ≠ "" := by
    rintro rfl
    exact absurd h (by decide)
  have hlink : LinksTo [(String.ofList (dropProject 0 name.toList), some "1")] (reference name)
      "1" :=
    .short hname (lookup_singleton_of_ne (dropped_ne h))
      (dropsProject_iff.2 String.toList_ofList.symm) List.lookup_cons_self
  exact resolveIn_of_linksTo_free (by simp [toList_reference, hline]) hlink (by decide) 10

/-! ## Names that are looked up as they should be -/

/-- A name is looked up by what it starts with: only after `project.` at its start there is
    another key for it, the rest of the name. -/
structure ResolvesByStart (name : String) : Prop where
  /-- A reference to what is no property stands for itself. -/
  plain : ∀ properties depth, properties.lookup name = none → ¬projectPart <+: name.toList →
    resolve properties (some (reference name)) depth = some (reference name)
  /-- The rest is tried after the name, and nothing else is. -/
  tried : ∀ properties rest, name = "project." ++ rest →
    property? properties name = (properties.lookup name).or (properties.lookup rest)
  /-- If neither is a property, the reference stands for itself. -/
  shortened : ∀ properties depth rest, name = "project." ++ rest →
    properties.lookup name = none → properties.lookup rest = none →
    resolve properties (some (reference name)) depth = some (reference name)

theorem resolvesByStart_of_not_hasInnerProject (hline : '\n' ∉ name.toList)
    (h : ¬HasInnerProject name) : ResolvesByStart name where
  plain properties depth hnone hstart := by
    rw [hasInnerProject_iff_of_other_start hstart] at h
    refine resolve_reference_of_none hline ?_ depth
    rw [property?_of_no_project h, hnone]
  tried properties rest hname := by
    subst hname
    rw [hasInnerProject_project] at h
    exact property?_project h
  shortened properties depth rest hname hnone hrest := by
    subst hname
    rw [hasInnerProject_project] at h
    refine resolve_reference_of_none hline ?_ depth
    rw [property?_project h, hnone, hrest]
    rfl

/-- With a `project.` behind its start, a name stands for a property that is neither its own nor
    that of the rest. -/
theorem not_resolvesByStart_of_hasInnerProject (hline : '\n' ∉ name.toList)
    (h : HasInnerProject name) : ¬ResolvesByStart name := by
  intro hresolves
  have hpart : projectPart <:+: name.toList := h.trans (List.tail_suffix _).isInfix
  have hother : some "1" ≠ some (reference name) := by
    intro hsame
    have hholds := holdsReference_reference name
    rw [← Option.some.inj hsame] at hholds
    exact absurd hholds (by decide)
  refine hother ((resolve_reference_of_project hline hpart).symm.trans ?_)
  -- The one property is that of the name without any `project.`, which is shorter.
  have hnone : List.lookup name [(String.ofList (dropProject 0 name.toList), some "1")] = none :=
    lookup_singleton_of_ne (dropped_ne hpart)
  by_cases hstart : projectPart <+: name.toList
  · obtain ⟨rest, rfl⟩ := exists_eq_project hstart
    rw [hasInnerProject_project] at h
    refine hresolves.shortened _ 0 rest rfl hnone ?_
    rw [toList_project, dropProject_projectPart]
    exact lookup_singleton_of_ne (dropped_ne h)
  · exact hresolves.plain _ 0 hnone hstart

/-- The names that are looked up by what they start with, as they should be, are those that
    have a `project.` at most at their start. -/
theorem resolvesByStart_iff (hline : '\n' ∉ name.toList) :
    ResolvesByStart name ↔ ¬HasInnerProject name :=
  ⟨fun h hinner => not_resolvesByStart_of_hasInnerProject hline hinner h,
    resolvesByStart_of_not_hasInnerProject hline⟩

/-- The version of a project is looked up as it should be. -/
theorem resolvesByStart_projectVersion : '\n' ∉ "project.version".toList ∧
    ResolvesByStart "project.version" ∧ ¬ResolvesByStart "project.project.version" := by
  have hline : '\n' ∉ "project.version".toList := by decide
  have hline' : '\n' ∉ "project.project.version".toList := by decide
  refine ⟨hline, (resolvesByStart_iff hline).2 (by decide), fun h => ?_⟩
  exact (resolvesByStart_iff hline').1 h (by decide)

/-- With a `project.` in its midst, a name stands for an unrelated property. -/
theorem not_forall_resolvesByStart :
    ¬∀ name, '}' ∉ name.toList → '\n' ∉ name.toList → ResolvesByStart name := by
  intro h
  have hstands := (h "my.project.version" (by decide) (by decide)).plain
    [("my.version", some "1")] 0 rfl (by decide)
  have hvalue : resolve [("my.version", some "1")] (some (reference "my.project.version")) 0 =
      some "1" := by
    decide +kernel
  exact absurd (hvalue.symm.trans hstands) (by decide)

end JavaBuild.Pom
