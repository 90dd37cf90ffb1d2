import JavaBuild.DependencyTree
import JavaBuild.Proofs.Conflict
import Mathlib.Data.List.Forall2

/-!
# Reading a dependency tree back

The tree of valid entries has one line for each of their artifacts, in order
(`treeLines_value`). A line tells by its start whether the artifact is the selected one, with
which an entry begins, or an alternate, and its first colon is where the id ends if the id
holds none (`readTreeLine_treeLine`). So what the tree shows of entries can be read from its
lines (`readTree_treeLines`), and trees with the same lines show the same
(`treeLines_readable`).
-/

namespace JavaBuild

variable {e : ValidEntry} {es fs : List ValidEntry} {a : Artifact}

/-! ## Lines -/

/-- How an artifact stands in its entry. -/
inductive Rank where
  | selected
  | alternate
  deriving DecidableEq, Repr

/-- What the line of an artifact starts with. -/
def Rank.lead : Rank → String
  | selected => " + "
  | alternate => "   + "

/-- The artifacts of an entry with how they stand in it, the selected one first. -/
def ValidEntry.ranked : ValidEntry → List (Rank × Artifact)
  | bare a => [(.selected, a)]
  | group selected alternates => (.selected, selected) :: alternates.map (Rank.alternate, ·)

/-- The line of an artifact. -/
def treeLine (rank : Rank) (a : Artifact) : String := rank.lead ++ a.shortName

theorem ValidEntry.map_ranked (e : ValidEntry) : e.ranked.map Prod.snd = e.artifacts := by
  cases e with
  | bare a => rfl
  | group selected alternates => simp [ranked, artifacts, Function.comp_def]

theorem map_flatMap_ranked (es : List ValidEntry) :
    (es.flatMap ValidEntry.ranked).map Prod.snd = es.flatMap ValidEntry.artifacts := by
  rw [List.map_flatMap]
  simp only [ValidEntry.map_ranked]

theorem memberLines_artifacts (e : ValidEntry) :
    memberLines e.artifacts = e.ranked.map fun m => treeLine m.1 m.2 := by
  cases e with
  | bare a => rfl
  | group selected alternates =>
    rw [ValidEntry.artifacts, memberLines, ValidEntry.ranked, List.map_cons, List.map_map]
    rfl

/-- A tree has a line for each artifact, in order. -/
theorem treeLines_value (es : List ValidEntry) : treeLines (es.map ValidEntry.value) =
    .ok ((es.flatMap ValidEntry.ranked).map fun m => treeLine m.1 m.2) := by
  have hmembers : (es.map ValidEntry.value).mapM
      (fun (v : Value) => v.members.map memberLines) =
      .ok (es.map fun e => e.ranked.map fun m => treeLine m.1 m.2) := by
    induction es with
    | nil => rfl
    | cons e es ih =>
      rw [List.map_cons, List.mapM_cons, ih, e.members_value]
      simp only [Except.map, memberLines_artifacts]
      rfl
  rw [treeLines, hmembers]
  simp only [Except.map, List.flatMap_def, List.map_flatten, List.map_map, Function.comp_def]

/-! ## Reading -/

/-- What a tree shows of an entry: the ids and versions of its artifacts, in order. -/
def ValidEntry.shown (e : ValidEntry) : List (String × String) :=
  e.artifacts.map fun a => (a.id, a.version)

/-- Read a line: how its artifact stands, and the id and the version before and after the
    first colon. -/
def readTreeLine (line : String) : Rank × String × String :=
  let rank := if Rank.alternate.lead.toList.isPrefixOf line.toList then Rank.alternate
    else .selected
  let name := line.toList.drop rank.lead.toList.length
  (rank, String.ofList (name.takeWhile (· != ':')),
    String.ofList (name.dropWhile (· != ':')).tail)

/-- Put what a line shows before what has been read of the lines after it: the alternates that
    no entry has begun with yet, and the entries. -/
def gather (m : Rank × String × String)
    (read : List (String × String) × List (List (String × String))) :
    List (String × String) × List (List (String × String)) :=
  match m.1 with
  | .selected => ([], (m.2 :: read.1) :: read.2)
  | .alternate => (m.2 :: read.1, read.2)

/-- Read the lines of a tree: the ids and versions of each entry. -/
def readTree (lines : List String) : List (List (String × String)) :=
  ((lines.map readTreeLine).foldr gather ([], [])).2

/-- A line is read as what it has been written for, if its first colon is where the id ends. -/
theorem readTreeLine_treeLine (rank : Rank) (h : ':' ∉ a.id.toList) :
    readTreeLine (treeLine rank a) = (rank, a.id, a.version) := by
  have hid : ∀ c ∈ a.id.toList, (c != ':') = true := by
    intro c hc
    rw [bne_iff_ne]
    rintro rfl
    exact h hc
  have hline : (treeLine rank a).toList =
      rank.lead.toList ++ (a.id.toList ++ ':' :: a.version.toList) := by
    simp [treeLine, Artifact.shortName]
  -- The second character of a lead, a plus or a blank, tells which one it is.
  have hrank : (if Rank.alternate.lead.toList.isPrefixOf (treeLine rank a).toList then
      Rank.alternate else .selected) = rank := by
    rw [hline]
    cases rank <;> rfl
  simp only [readTreeLine, hrank]
  rw [hline, List.drop_left, List.takeWhile_append_of_pos hid, List.dropWhile_append_of_pos hid]
  simp

/-- Alternates wait for the selected artifact in front of them. -/
theorem foldr_gather_alternates (xs : List (String × String))
    (read : List (List (String × String))) :
    (xs.map (Rank.alternate, ·)).foldr gather ([], read) = (xs, read) := by
  induction xs with
  | nil => rfl
  | cons x xs ih =>
    rw [List.map_cons, List.foldr_cons, ih]
    rfl

/-- The lines of an entry are read as one entry. -/
theorem foldr_gather_ranked (e : ValidEntry) (read : List (List (String × String))) :
    (e.ranked.map fun m => (m.1, m.2.id, m.2.version)).foldr gather ([], read) =
      ([], e.shown :: read) := by
  cases e with
  | bare a => rfl
  | group selected alternates =>
    have halternates := foldr_gather_alternates (alternates.map fun a => (a.id, a.version)) read
    rw [List.map_map] at halternates
    rw [ValidEntry.ranked, List.map_cons, List.map_map, List.foldr_cons]
    simp only [Function.comp_def] at halternates ⊢
    rw [halternates]
    rfl

/-- What a tree shows is read from its lines. -/
theorem readTree_treeLines (h : ∀ a ∈ es.flatMap ValidEntry.artifacts, ':' ∉ a.id.toList) :
    readTree ((es.flatMap ValidEntry.ranked).map fun m => treeLine m.1 m.2) =
      es.map ValidEntry.shown := by
  have hread : ((es.flatMap ValidEntry.ranked).map fun m => treeLine m.1 m.2).map readTreeLine =
      (es.flatMap ValidEntry.ranked).map fun m => (m.1, m.2.id, m.2.version) := by
    rw [List.map_map]
    refine List.map_congr_left fun m hm => readTreeLine_treeLine m.1 (h m.2 ?_)
    rw [← map_flatMap_ranked]
    exact List.mem_map_of_mem hm
  rw [readTree, hread]
  -- What is read of the lines of the later entries does not depend on those before.
  suffices hgather : ((es.flatMap ValidEntry.ranked).map fun m =>
      (m.1, m.2.id, m.2.version)).foldr gather ([], []) = ([], es.map ValidEntry.shown) by
    rw [hgather]
  clear h hread
  induction es with
  | nil => rfl
  | cons e es ih =>
    rw [List.flatMap_cons, List.map_append, List.foldr_append, ih, foldr_gather_ranked,
      List.map_cons]

/-- Entries that show the same have as many artifacts, with the same ids and versions. -/
theorem forall₂_of_map_shown (h : es.map ValidEntry.shown = fs.map ValidEntry.shown) :
    List.Forall₂ (fun e f =>
      List.Forall₂ (fun a b : Artifact => a.id = b.id ∧ a.version = b.version)
        e.artifacts f.artifacts) es fs := by
  have hshown : List.Forall₂ (fun e f : ValidEntry => e.shown = f.shown) es fs := by
    rw [← List.forall₂_eq_eq_eq] at h
    exact List.forall₂_map_left_iff.1 (List.forall₂_map_right_iff.1 h)
  refine hshown.imp fun e f hef => ?_
  rw [ValidEntry.shown, ValidEntry.shown, ← List.forall₂_eq_eq_eq] at hef
  have hartifacts := List.forall₂_map_left_iff.1 (List.forall₂_map_right_iff.1 hef)
  exact hartifacts.imp fun a b hab => Prod.mk.inj hab

/-- The tree of valid entries has one line for each artifact, the selected one of an entry
    before its alternates, and trees with the same lines, if no id holds a colon, are of as many
    entries, with as many artifacts in each, which have the same ids and versions. -/
theorem treeLines_readable (es : List ValidEntry) :
    ∃ lines, treeLines (es.map ValidEntry.value) = .ok lines ∧
      lines = (es.flatMap ValidEntry.ranked).map (fun m => treeLine m.1 m.2) ∧
      lines.length = (es.flatMap ValidEntry.artifacts).length ∧
      ∀ fs : List ValidEntry,
        (∀ a ∈ es.flatMap ValidEntry.artifacts, ':' ∉ a.id.toList) →
        (∀ a ∈ fs.flatMap ValidEntry.artifacts, ':' ∉ a.id.toList) →
        treeLines (fs.map ValidEntry.value) = .ok lines →
        List.Forall₂ (fun e f =>
          List.Forall₂ (fun a b : Artifact => a.id = b.id ∧ a.version = b.version)
            e.artifacts f.artifacts) es fs := by
  refine ⟨_, treeLines_value es, rfl, ?_, ?_⟩
  · rw [← map_flatMap_ranked, List.length_map, List.length_map]
  · intro fs hes hfs hlines
    rw [treeLines_value, Except.ok.injEq] at hlines
    apply forall₂_of_map_shown
    rw [← readTree_treeLines hes, ← readTree_treeLines hfs, hlines]

/-- A group and an artifact, with ids that look like the start of a line and a version with a
    colon. -/
def sampleTree : List ValidEntry :=
  [.group ⟨"g", "a + b", "1:2", "jar", none⟩ [⟨"g", "  + c", "", "jar", none⟩],
    .bare ⟨"h", "", "2", "jar", none⟩]

/-- The same ids and versions in other groups, and with other types. -/
def movedTree : List ValidEntry :=
  [.group ⟨"x", "a + b", "1:2", "zip", none⟩ [⟨"y", "  + c", "", "pom", some "tests"⟩],
    .bare ⟨"z", "", "2", "jar", none⟩]

theorem treeLines_readable_sampleTree :
    ((∀ a ∈ sampleTree.flatMap ValidEntry.artifacts, ':' ∉ a.id.toList) ∧
      ∀ a ∈ movedTree.flatMap ValidEntry.artifacts, ':' ∉ a.id.toList) ∧
    ∃ lines, treeLines (sampleTree.map ValidEntry.value) = .ok lines ∧
      treeLines (movedTree.map ValidEntry.value) = .ok lines ∧ lines.length = 3 ∧
      List.Forall₂ (fun e f =>
        List.Forall₂ (fun a b : Artifact => a.id = b.id ∧ a.version = b.version)
          e.artifacts f.artifacts) sampleTree movedTree := by
  have hsample : ∀ a ∈ sampleTree.flatMap ValidEntry.artifacts, ':' ∉ a.id.toList := by
    decide +kernel
  have hmoved : ∀ a ∈ movedTree.flatMap ValidEntry.artifacts, ':' ∉ a.id.toList := by
    decide +kernel
  obtain ⟨lines, hlines, hranked, hlength, hreadable⟩ := treeLines_readable sampleTree
  have hsame : treeLines (movedTree.map ValidEntry.value) = .ok lines := by
    rw [treeLines_value, hranked]
    rfl
  exact ⟨⟨hsample, hmoved⟩, lines, hlines, hsame, hlength,
    hreadable movedTree hsample hmoved hsame⟩

end JavaBuild
