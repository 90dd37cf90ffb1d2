import JavaBuild.Entry
import JavaBuild.Proofs.Text.Line
import JavaBuild.Proofs.Text.Separated

/-!
# Written specs

An artifact whose fields can stand in a spec is read from each of its specs
(`IsSpec.ofSpec_eq`): the full one, and if it is a jar without a classifier also the one
without a type.
-/

namespace JavaBuild.Artifact

variable {a : Artifact} {field : String} {fields : List String} {w : List Char}

/-! ## Fields -/

/-- A text that can stand in a spec in a dependency list. -/
structure IsField (field : String) : Prop where
  nonempty : field ≠ ""
  solid : ∀ c ∈ field.toList, Text.isBlank c = false
  plain : ∀ c ∈ field.toList, c ≠ ':' ∧ c ≠ '#'

instance (field : String) : Decidable (IsField field) :=
  decidable_of_iff (field ≠ "" ∧ (∀ c ∈ field.toList, Text.isBlank c = false) ∧
    ∀ c ∈ field.toList, c ≠ ':' ∧ c ≠ '#') ⟨fun h => ⟨h.1, h.2.1, h.2.2⟩, fun h => ⟨h.1, h.2, h.3⟩⟩

/-- An artifact that can be written as a spec. -/
structure IsPlain (a : Artifact) : Prop where
  group : IsField a.group
  id : IsField a.id
  version : IsField a.version
  type : IsField a.type
  classifier : ∀ c ∈ a.classifier, IsField c

/-- A spec of an artifact: the full one, or the short one of a jar. -/
inductive IsSpec (a : Artifact) : List Char → Prop
  | full : IsSpec a a.spec.toList
  | short (htype : a.type = "jar") (hclassifier : a.classifier = none) : IsSpec a a.provider.toList

/-! ## Specs of fields -/

/-- A spec of fields is a word without a comment. -/
theorem isWord_intercalate (hne : fields ≠ []) (h : ∀ field ∈ fields, IsField field) :
    Text.IsWord (":".intercalate fields).toList ∧ '#' ∉ (":".intercalate fields).toList := by
  refine ⟨⟨fun hnil => ?_, fun c hc => ?_⟩, fun hc => ?_⟩
  · obtain ⟨field, rest, rfl⟩ := List.exists_cons_of_ne_nil hne
    have hfield := (h field List.mem_cons_self).nonempty
    cases rest <;> simp_all
  · by_cases hcolon : c = ':'
    · subst hcolon
      decide
    · obtain ⟨field, hf, hc⟩ := (Text.mem_intercalate_iff (by simpa using hcolon) fields).1 hc
      exact (h field hf).solid c hc
  · obtain ⟨field, hf, hc⟩ := (Text.mem_intercalate_iff (by decide) fields).1 hc
    exact ((h field hf).plain '#' hc).2 rfl

/-- The parts of a spec of fields are the fields. -/
theorem specParts_intercalate (hne : fields ≠ []) (h : ∀ field ∈ fields, IsField field) :
    specParts (":".intercalate fields) = fields := by
  have hsolid := (isWord_intercalate hne h).1.solid
  have hcolon : ∀ field ∈ fields, ':' ∉ field.toList := fun field hf hc =>
    ((h field hf).plain ':' hc).1 rfl
  rw [specParts, Text.trim_eq_self (fun c hc => hsolid c (List.mem_of_mem_head? hc))
    fun c hc => hsolid c (List.mem_of_mem_getLast? hc), Text.splitOn_intercalate rfl hne hcolon]

/-- The artifact of fields, which depends on their number. -/
def ofFields? : List String → Option Artifact
  | [group, id, version] => some { group, id, version }
  | [group, id, type, version] => some { group, id, version, type }
  | [group, id, type, classifier, version] =>
    some { group, id, version, type, classifier := some classifier }
  | _ => none

theorem ofSpec?_intercalate (hne : fields ≠ []) (h : ∀ field ∈ fields, IsField field) :
    ofSpec? (":".intercalate fields) = ofFields? fields := by
  have hempty : fields.any (· == "") = false := by
    rw [List.any_eq_false]
    intro field hf
    simpa using (h field hf).nonempty
  rw [ofSpec?, specParts_intercalate hne h]
  simp only [hempty]
  rw [if_neg Bool.false_ne_true]
  rfl

/-! ## Specs of artifacts -/

/-- The fields of the short spec. -/
def providerFields (a : Artifact) : List String := [a.group, a.id, a.version]

theorem provider_eq_intercalate (a : Artifact) : a.provider = ":".intercalate a.providerFields :=
  rfl

/-- The fields of the full spec. -/
def specFields (a : Artifact) : List String :=
  [a.group, a.id, a.type] ++ a.classifier.toList ++ [a.version]

theorem spec_eq_intercalate (h : a.classifier ≠ some "") :
    a.spec = ":".intercalate a.specFields := by
  rw [spec, specFields]
  cases hc : a.classifier with
  | none => rfl
  | some c =>
    have hne : c ≠ "" := fun he => h (he ▸ hc)
    split
    · rename_i heq
      cases heq
    · rename_i heq
      cases heq
      exact absurd rfl hne
    · rename_i heq
      cases heq
      rfl

theorem IsPlain.classifier_ne (h : a.IsPlain) : a.classifier ≠ some "" := fun hc =>
  (h.classifier "" hc).nonempty rfl

theorem IsPlain.isField_providerFields (h : a.IsPlain) :
    ∀ field ∈ a.providerFields, IsField field := by
  simp only [providerFields, List.forall_mem_cons, List.not_mem_nil]
  exact ⟨h.group, h.id, h.version, fun _ h => h.elim⟩

theorem IsPlain.isField_specFields (h : a.IsPlain) : ∀ field ∈ a.specFields, IsField field := by
  simp only [specFields, List.forall_mem_append, List.forall_mem_cons, List.not_mem_nil]
  exact ⟨⟨⟨h.group, h.id, h.type, fun _ h => h.elim⟩,
    fun c hc => h.classifier c (Option.mem_toList.1 hc)⟩, h.version, fun _ h => h.elim⟩

/-- A spec is written with fields, from which the artifact is read. -/
theorem IsSpec.exists_fields (hspec : a.IsSpec w) (h : a.IsPlain) : ∃ fields, fields ≠ [] ∧
    (∀ field ∈ fields, IsField field) ∧ w = (":".intercalate fields).toList ∧
    ofSpec? (":".intercalate fields) = some a := by
  cases hspec with
  | full =>
    refine ⟨a.specFields, by simp [specFields], h.isField_specFields,
      congrArg String.toList (spec_eq_intercalate h.classifier_ne), ?_⟩
    rw [ofSpec?_intercalate (by simp [specFields]) h.isField_specFields]
    obtain ⟨group, id, version, type, _ | classifier⟩ := a <;> rfl
  | short htype hclassifier =>
    refine ⟨a.providerFields, by simp [providerFields], h.isField_providerFields,
      congrArg String.toList a.provider_eq_intercalate, ?_⟩
    rw [ofSpec?_intercalate (by simp [providerFields]) h.isField_providerFields, providerFields,
      ofFields?, ← htype, ← hclassifier]

/-- A spec is a word in which no comment starts. -/
theorem IsSpec.isWord (hspec : a.IsSpec w) (h : a.IsPlain) : Text.IsWord w ∧ '#' ∉ w := by
  obtain ⟨fields, hne, hfields, rfl, -⟩ := hspec.exists_fields h
  exact isWord_intercalate hne hfields

/-- An artifact is read from each of its specs. -/
theorem IsSpec.ofSpec_eq (hspec : a.IsSpec w) (h : a.IsPlain) :
    ofSpec (String.ofList w) = .ok a := by
  obtain ⟨fields, -, -, rfl, hread⟩ := hspec.exists_fields h
  rw [ofSpec, String.ofList_toList, hread]

end JavaBuild.Artifact
