import JavaBuild.Proofs.Artifact

/-!
# Which specs and artifacts correspond

A text is a spec if it has three to five parts between its colons, blanks around it apart,
and none of them is empty (`HasParts`). An artifact is read again from its spec if its fields
can be such parts, and there is no blank where the spec starts or ends (`IsRegular`). All that
is read is regular, so that reading and writing are inverse to each other on regular artifacts
and trimmed full specs (`ofSpec_spec`).
-/

namespace JavaBuild.Artifact

variable {a : Artifact} {s : String} {parts : List String}

/-! ## Parts -/

/-- The parts of a text, between its colons. Blanks around the text do not count. -/
structure HasParts (s : String) (parts : List String) : Prop where
  nonempty : parts ≠ []
  joined : Text.Trims s (":".intercalate parts)
  plain : ∀ part ∈ parts, ':' ∉ part.toList

theorem hasParts_iff_specParts : HasParts s parts ↔ specParts s = parts := by
  constructor
  · intro h
    have htext : Text.trim s.toList = (":".intercalate parts).toList := by
      rw [← Text.trims_iff.1 h.joined, Text.trimmed, String.toList_ofList]
    rw [specParts, htext, Text.splitOn_intercalate rfl h.nonempty h.plain]
  · rintro rfl
    refine ⟨?_, ?_, fun part => Text.notMem_of_mem_splitOn⟩
    · simp [specParts, List.splitOn_ne_nil]
    · rw [Text.trims_iff, specParts, Text.trimmed, Text.intercalate_splitOn rfl]

/-- A text has its parts in one way only. -/
theorem HasParts.unique {parts' : List String} (h : HasParts s parts) (h' : HasParts s parts') :
    parts' = parts := by
  rw [← hasParts_iff_specParts.1 h, ← hasParts_iff_specParts.1 h']

/-! ## Regular artifacts -/

/-- A text that can be a part of a spec. -/
@[mk_iff]
structure IsPart (part : String) : Prop where
  nonempty : part ≠ ""
  plain : ':' ∉ part.toList

instance (part : String) : Decidable (IsPart part) := decidable_of_iff' _ (isPart_iff part)

/-- An artifact all of which is told by its spec. -/
@[mk_iff]
structure IsRegular (a : Artifact) : Prop where
  group : IsPart a.group
  id : IsPart a.id
  version : IsPart a.version
  type : IsPart a.type
  classifier : ∀ c ∈ a.classifier, IsPart c
  start : ∀ c ∈ a.group.toList.head?, Text.isBlank c = false
  stop : ∀ c ∈ a.version.toList.getLast?, Text.isBlank c = false

instance (a : Artifact) : Decidable (IsRegular a) := decidable_of_iff' _ (isRegular_iff a)

/-- The fields are those of a full spec, or of a short one if the artifact is a jar without a
    classifier. -/
def IsWritten (a : Artifact) (fields : List String) : Prop :=
  fields = a.specFields ∨ (a.type = "jar" ∧ a.classifier = none ∧ fields = a.providerFields)

theorem ofFields?_eq_some_iff : ofFields? parts = some a ↔ a.IsWritten parts := by
  constructor
  · intro h
    unfold ofFields? at h
    split at h <;> cases h
    · exact .inr ⟨rfl, rfl, rfl⟩
    · exact .inl rfl
    · exact .inl rfl
  · rintro (rfl | ⟨htype, hclassifier, rfl⟩)
    · obtain ⟨group, id, version, type, _ | classifier⟩ := a <;> rfl
    · rw [providerFields, ofFields?, ← htype, ← hclassifier]

/-- Written fields start with the group and end with the version. -/
theorem IsWritten.exists_eq (h : a.IsWritten parts) : ∃ init rest,
    parts = init ++ [a.version] ∧ parts = a.group :: rest := by
  rcases h with rfl | ⟨-, -, rfl⟩
  · exact ⟨_, _, rfl, rfl⟩
  · exact ⟨[a.group, a.id], _, rfl, rfl⟩

/-- An artifact is read from a text if its fields are the parts of the text. -/
theorem ofSpec_eq_ok_iff : ofSpec s = .ok a ↔
    ∃ parts, HasParts s parts ∧ "" ∉ parts ∧ a.IsWritten parts := by
  have hread : ofSpec? s =
      if (specParts s).any (· == "") then none else ofFields? (specParts s) := rfl
  have hsome : ofSpec s = .ok a ↔ ofSpec? s = some a := by
    rw [ofSpec]
    cases ofSpec? s <;> simp
  rw [hsome, hread]
  simp only [hasParts_iff_specParts, exists_eq_left', ← ofFields?_eq_some_iff]
  by_cases hempty : "" ∈ specParts s
  · simp [hempty]
  · simp [hempty]

/-- What is read from a text is regular. -/
theorem isRegular_of_ofSpec (h : ofSpec s = .ok a) : a.IsRegular := by
  obtain ⟨parts, hparts, hempty, hwritten⟩ := ofSpec_eq_ok_iff.1 h
  have hpart : ∀ part ∈ parts, IsPart part := fun part hmem =>
    ⟨fun hnil => hempty (hnil ▸ hmem), hparts.plain part hmem⟩
  -- The text between the blanks starts with the group and ends with the version.
  obtain ⟨init, rest, hlast, hfirst⟩ := hwritten.exists_eq
  have hgroup : IsPart a.group := hpart _ (hfirst ▸ List.mem_cons_self)
  have hversion : IsPart a.version := hpart _ (hlast ▸ List.mem_concat_self)
  have hstart : ∀ c ∈ a.group.toList.head?, Text.isBlank c = false := by
    rw [← Text.head?_intercalate hgroup.nonempty rest, ← hfirst]
    exact hparts.joined.start
  have hstop : ∀ c ∈ a.version.toList.getLast?, Text.isBlank c = false := by
    rw [← Text.getLast?_intercalate hversion.nonempty init, ← hlast]
    exact hparts.joined.stop
  rcases hwritten with rfl | ⟨htype, hclassifier, rfl⟩
  · refine ⟨hgroup, hpart _ ?_, hversion, hpart _ ?_, fun c hc => hpart c ?_, hstart, hstop⟩
    · simp [specFields]
    · simp [specFields]
    · simp [specFields, Option.mem_def.1 hc]
  · refine ⟨hgroup, hpart _ ?_, hversion, ?_, ?_, hstart, hstop⟩
    · simp [providerFields]
    · rw [htype]
      decide
    · intro c hc
      simp [hclassifier] at hc

theorem IsRegular.classifier_ne (h : a.IsRegular) : a.classifier ≠ some "" := fun hc =>
  (h.classifier "" hc).nonempty rfl

/-- The parts of the spec of a regular artifact are its fields. -/
theorem IsRegular.hasParts (h : a.IsRegular) : HasParts a.spec a.specFields := by
  have hspec : a.spec = ":".intercalate a.specFields :=
    spec_eq_intercalate h.classifier_ne
  have hfirst : a.specFields = a.group :: (a.id :: a.type :: a.classifier.toList ++ [a.version]) :=
    rfl
  refine ⟨by simp [specFields], ⟨⟨[], [], ?_, nofun, nofun⟩, ?_, ?_⟩, ?_⟩
  · rw [← hspec, List.nil_append, List.append_nil]
  · rw [hfirst, Text.head?_intercalate h.group.nonempty]
    exact h.start
  · rw [specFields, Text.getLast?_intercalate h.version.nonempty]
    exact h.stop
  · simp only [specFields, List.forall_mem_append, List.forall_mem_cons, List.not_mem_nil,
      Option.mem_toList]
    exact ⟨⟨⟨h.group.plain, h.id.plain, h.type.plain, fun _ h => h.elim⟩,
      fun c hc => (h.classifier c hc).plain⟩, h.version.plain, fun _ h => h.elim⟩

theorem IsRegular.ofSpec_spec_eq (h : a.IsRegular) : ofSpec a.spec = .ok a := by
  refine ofSpec_eq_ok_iff.2 ⟨_, h.hasParts, fun hmem => ?_, .inl rfl⟩
  simp only [specFields, List.mem_append, List.mem_cons, List.not_mem_nil, or_false,
    Option.mem_toList] at hmem
  rcases hmem with ((hempty | hempty | hempty) | hempty) | hempty
  · exact h.group.nonempty hempty.symm
  · exact h.id.nonempty hempty.symm
  · exact h.type.nonempty hempty.symm
  · exact (h.classifier "" hempty).nonempty rfl
  · exact h.version.nonempty hempty.symm

/-- Three to five parts, none of them empty, are the fields of an artifact. -/
theorem exists_isWritten (h : parts.length ∈ [3, 4, 5]) : ∃ a : Artifact, a.IsWritten parts := by
  simp only [← ofFields?_eq_some_iff]
  match parts, h with
  | [group, id, version], _ => exact ⟨_, rfl⟩
  | [group, id, type, version], _ => exact ⟨_, rfl⟩
  | [group, id, type, classifier, version], _ => exact ⟨_, rfl⟩

theorem IsWritten.length_mem (h : a.IsWritten parts) : parts.length ∈ [3, 4, 5] := by
  rcases h with rfl | ⟨-, -, rfl⟩
  · obtain ⟨group, id, version, type, _ | classifier⟩ := a <;> simp [specFields]
  · simp [providerFields]

/-- An artifact is read again from its spec if it is regular. A text is read if it has three to
    five parts, none of them empty; what is read is regular, and its spec is the text without
    the blanks around it, with the type written if it is not. -/
theorem ofSpec_spec :
    (∀ a : Artifact, ofSpec a.spec = .ok a ↔ a.IsRegular) ∧
    ∀ s, ((∃ a, ofSpec s = .ok a) ↔
        ∃ parts, HasParts s parts ∧ parts.length ∈ [3, 4, 5] ∧ "" ∉ parts) ∧
      ∀ a, ofSpec s = .ok a → a.IsRegular ∧ ofSpec a.spec = ofSpec s ∧
        (∀ group id version, HasParts s [group, id, version] →
          a.spec = ":".intercalate [group, id, "jar", version]) ∧
        ∀ parts, HasParts s parts → 3 < parts.length → a.spec = ":".intercalate parts := by
  refine ⟨fun a => ⟨isRegular_of_ofSpec, IsRegular.ofSpec_spec_eq⟩, fun s => ⟨?_, fun a h => ?_⟩⟩
  · constructor
    · rintro ⟨a, h⟩
      obtain ⟨parts, hparts, hempty, hwritten⟩ := ofSpec_eq_ok_iff.1 h
      exact ⟨parts, hparts, hwritten.length_mem, hempty⟩
    · rintro ⟨parts, hparts, hlength, hempty⟩
      obtain ⟨a, ha⟩ := exists_isWritten hlength
      exact ⟨a, ofSpec_eq_ok_iff.2 ⟨parts, hparts, hempty, ha⟩⟩
  · have hregular := isRegular_of_ofSpec h
    have hspec : a.spec = ":".intercalate a.specFields :=
      spec_eq_intercalate hregular.classifier_ne
    obtain ⟨parts, hparts, -, hwritten⟩ := ofSpec_eq_ok_iff.1 h
    refine ⟨hregular, by rw [hregular.ofSpec_spec_eq, h], ?_, ?_⟩
    · -- Three parts cannot be a full spec, so they are that of a provider.
      intro group id version hshort
      obtain rfl := hparts.unique hshort
      rcases hwritten with hfull | ⟨htype, hclassifier, hfields⟩
      · have hlength := congrArg List.length hfull
        simp [specFields] at hlength
      · simp only [providerFields, List.cons.injEq, and_true] at hfields
        obtain ⟨rfl, rfl, rfl⟩ := hfields
        rw [hspec, specFields, htype, hclassifier]
        rfl
    · intro parts' hparts' hlength
      obtain rfl := hparts.unique hparts'
      rcases hwritten with rfl | ⟨-, -, rfl⟩
      · exact hspec
      · exact absurd hlength (Nat.lt_irrefl 3)

theorem ofSpec_spec_sample :
    (⟨"g", "a", "1", "jar", some "tests"⟩ : Artifact).IsRegular ∧
    ¬(⟨"g", "a", "1", "jar", some ""⟩ : Artifact).IsRegular ∧
    HasParts "\tg:a: 1\n" ["g", "a", " 1"] ∧
    ofSpec "\tg:a: 1\n" = .ok ⟨"g", "a", " 1", "jar", none⟩ ∧
    ofSpec (Artifact.spec ⟨"g", "a", "1", "jar", some "tests"⟩) =
      .ok ⟨"g", "a", "1", "jar", some "tests"⟩ ∧
    Artifact.spec ⟨"g", "a", " 1", "jar", none⟩ = "g:a:jar: 1" := by
  have hregular : (⟨"g", "a", "1", "jar", some "tests"⟩ : Artifact).IsRegular := by
    decide +kernel
  have hparts : HasParts "\tg:a: 1\n" ["g", "a", " 1"] :=
    hasParts_iff_specParts.2 (by decide +kernel)
  have hread : ofSpec "\tg:a: 1\n" = .ok ⟨"g", "a", " 1", "jar", none⟩ :=
    ofSpec_eq_ok_iff.2 ⟨_, hparts, by decide, .inr ⟨rfl, rfl, rfl⟩⟩
  exact ⟨hregular, by decide +kernel, hparts, hread, (ofSpec_spec.1 _).2 hregular,
    ((ofSpec_spec.2 _).2 _ hread).2.2.1 _ _ _ hparts⟩

end JavaBuild.Artifact
