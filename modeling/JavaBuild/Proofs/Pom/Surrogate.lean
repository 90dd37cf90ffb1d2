import JavaBuild.Proofs.Pom.Adding
import JavaBuild.Proofs.Text.Surrogate
import JavaBuild.Proofs.Work

/-!
# Artifacts with lone surrogates

Lone surrogates make no difference to a project object model if there are none in the
coordinates of its artifact (`addEscapedPom_of_isUnicode`). If there is one, adding fails and
leaves an empty file, which passes for a project object model from then on
(`addEscapedPom_of_not_isUnicode`).
-/

namespace JavaBuild

variable {escapes : Text.Escapes}

/-- There are no lone surrogates in the coordinates of an artifact. -/
@[mk_iff]
structure Artifact.IsUnicode (a : Artifact) (escapes : Text.Escapes) : Prop where
  group : escapes.IsUnicode a.group
  id : escapes.IsUnicode a.id
  version : escapes.IsUnicode a.version

instance (a : Artifact) : Decidable (a.IsUnicode escapes) :=
  decidable_of_iff' _ (a.isUnicode_iff escapes)

namespace Pom

variable {a : Artifact} {s : String} {repository : Path} {s₀ : Session} {bytes : ByteArray}

/-! ## The text -/

/-- What stands for a special character is ASCII, and so is the character. -/
theorem isUnicode_escape_iff : escapes.IsUnicode (escape s) ↔ escapes.IsUnicode s := by
  refine Text.Escapes.isUnicode_flatMap_iff fun c => ?_
  unfold escapeChar
  split_ifs with hand hless hgreater
  · exact .inr (hand ▸ by decide)
  · exact .inr (hless ▸ by decide)
  · exact .inr (hgreater ▸ by decide)
  · exact .inl rfl

theorem isUnicode_elementLine_iff {name : String} (h : ∀ c ∈ name.toList, c.toNat < 0x80) :
    escapes.IsUnicode (elementLine name s) ↔ escapes.IsUnicode s := by
  have hname : escapes.IsUnicode name := Text.Escapes.IsUnicode.of_ascii h
  have hmark (mark : String) (h : ∀ c ∈ mark.toList, c.toNat < 0x80) : escapes.IsUnicode mark :=
    .of_ascii h
  change escapes.IsUnicode ("  <" ++ name ++ ">" ++ escape s ++ "</" ++ name ++ ">\n") ↔ _
  simp only [Text.Escapes.isUnicode_append_iff, isUnicode_escape_iff, hname, and_true, true_and,
    hmark _ (show ∀ c ∈ "  <".toList, c.toNat < 0x80 by decide),
    hmark _ (show ∀ c ∈ ">".toList, c.toNat < 0x80 by decide),
    hmark _ (show ∀ c ∈ "</".toList, c.toNat < 0x80 by decide),
    hmark _ (show ∀ c ∈ ">\n".toList, c.toNat < 0x80 by decide)]

/-- There are lone surrogates in a project object model exactly if there are in the coordinates
    of its artifact. -/
theorem isUnicode_minimalPom_iff : escapes.IsUnicode (minimalPom a) ↔ a.IsUnicode escapes := by
  have hstart : escapes.IsUnicode ("<project>\n" ++ elementLine "modelVersion" "4.0.0") :=
    .of_ascii (by decide +kernel)
  have hend : escapes.IsUnicode "</project>\n" := .of_ascii (by decide)
  rw [minimalPom, Text.Escapes.isUnicode_append_iff, Text.Escapes.isUnicode_append_iff,
    Text.Escapes.isUnicode_append_iff, Text.Escapes.isUnicode_append_iff,
    isUnicode_elementLine_iff (by decide), isUnicode_elementLine_iff (by decide),
    isUnicode_elementLine_iff (by decide)]
  exact ⟨fun ⟨⟨⟨⟨_, hgroup⟩, hid⟩, hversion⟩, _⟩ => ⟨hgroup, hid, hversion⟩,
    fun h => ⟨⟨⟨⟨hstart, h.group⟩, h.id⟩, h.version⟩, hend⟩⟩

/-! ## Adding -/

theorem addEscapedPom_of_isUnicode (h : a.IsUnicode escapes) (repository : Path) :
    addEscapedPom escapes repository a = addPom repository a := by
  simp only [addEscapedPom, addPom_eq,
    Work.writeEscaped_of_isUnicode (isUnicode_minimalPom_iff.2 h)]

/-- Where a project object model is, none is written. -/
theorem addEscapedPom_of_readFile (h : s₀.workspace.readFile (pomPath repository a) = .ok bytes) :
    (addEscapedPom escapes repository a).runIn s₀ = (.ok false, s₀) := by
  obtain ⟨l, hl⟩ := Workspace.inspect_of_readFile h
  have hexists : s₀.workspace.pathExists (pomPath repository a) = .ok true :=
    Workspace.pathExists_eq_ok_iff.2 ⟨_, Workspace.find?_of_inspect hl, rfl⟩
  simp only [addEscapedPom, Work.pathExists, Work.runIn_bind, Work.runIn_inspect, hexists,
    mapError_ok, if_true, Work.runIn_pure]

/-- Where an artifact could be added, lone surrogates make this fail, and an empty file is
    left, so that adding it again does nothing. -/
theorem addEscapedPom_of_not_isUnicode {s₁ : Session} (hplain : ¬a.IsUnicode escapes)
    (h : (addPom repository a).runIn s₀ = (.ok true, s₁)) : ∃ e workspace,
      (addEscapedPom escapes repository a).runIn s₀ =
        (.error (.unencodable e), { s₀ with workspace }) ∧
      workspace.readFile (pomPath repository a) = .ok .empty ∧
      (addEscapedPom escapes repository a).runIn { s₀ with workspace } =
        (.ok false, { s₀ with workspace }) := by
  obtain ⟨e, htext⟩ :=
    Text.Escapes.exists_encode_eq_error fun h => hplain (isUnicode_minimalPom_iff.1 h)
  rw [addPom_eq] at h
  obtain ⟨found, s, hexists, h⟩ := Work.runIn_bind_eq_ok h
  obtain ⟨-, rfl⟩ := Work.eq_of_runIn_inspect hexists
  cases found with
  | true => cases h
  | false =>
    obtain ⟨⟨⟩, made, hmade, h⟩ := Work.runIn_bind_eq_ok h
    obtain ⟨⟨⟩, _, hwrite, -⟩ := Work.runIn_bind_eq_ok h
    obtain ⟨workspace, hfails, hread⟩ := Work.runIn_writeEscaped_of_error htext hwrite
    have hsession : { made with workspace } = { s with workspace } := by
      rw [Work.runIn_makeDirectories, Prod.mk.injEq] at hmade
      rw [← hmade.2]
    refine ⟨e, workspace, ?_, hread, addEscapedPom_of_readFile hread⟩
    rw [addEscapedPom, Work.runIn_bind, hexists]
    simp only [Bool.false_eq_true, if_false, Work.runIn_bind, hmade, hfails, hsession]

end Pom

end JavaBuild
