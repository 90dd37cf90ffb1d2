import JavaBuild.DependencyFile
import JavaBuild.Proofs.Artifact
import JavaBuild.Proofs.Conflict
import JavaBuild.Proofs.FileTree.Access

/-!
# Layouts of dependency lists

Entries can be laid out in many texts (`Layout`): with gaps of any kind around the specs
of a line, with comments, with lines without an entry, and with any ends of the lines.
All of them are read as the same entries (`loadList_layout`), as each line is read as
its entry (`IsLine.entryOf_eq`), and a line more or less that is empty does not count.
-/

namespace JavaBuild.DependencyList

open Text (IsBreak IsGap IsWord Spaced isLineEnd pieces)

variable {e : ValidEntry} {es : List ValidEntry} {cs line : List Char}
  {ws lines : List (List Char)}

/-! ## Layouts -/

/-- An entry that can be written on a line. A group of one artifact cannot, as it would
    be read as the artifact. -/
structure Listable (e : ValidEntry) : Prop where
  plain : ∀ a ∈ e.artifacts, a.IsPlain
  several : ∀ a, e ≠ .group a []

/-- What may follow the specs on a line: a comment, or nothing. -/
inductive IsRemark : List Char → Prop
  | none : IsRemark []
  | comment {text : List Char} (h : ∀ c ∈ text, isLineEnd c = false) : IsRemark ('#' :: text)

/-- The lines that an entry is written on, and the lines without one. -/
inductive IsLine : Option ValidEntry → List Char → Prop
  | entry {e : ValidEntry} {ws : List (List Char)} {specs remark : List Char}
    (hws : List.Forall₂ Artifact.IsSpec e.artifacts ws) (hspecs : Spaced ws specs)
    (hremark : IsRemark remark) : IsLine (some e) (specs ++ remark)
  | blank {gap remark : List Char} (hgap : IsGap gap) (hremark : IsRemark remark) :
    IsLine none (gap ++ remark)

/-- The texts that entries are written in, line by line. The last line need not have an
    end. -/
inductive Layout : List ValidEntry → List Char → Prop
  | last {e : Option ValidEntry} {line : List Char} (h : IsLine e line) : Layout e.toList line
  | line {e : Option ValidEntry} {es : List ValidEntry} {line ending rest : List Char}
    (h : IsLine e line) (hending : IsBreak ending) (hrest : Layout es rest) :
    Layout (e.toList ++ es) (line ++ (ending ++ rest))

/-! ## Lines -/

/-- Words that can be the specs of a line. -/
def AreSpecs (ws : List (List Char)) : Prop := ∀ w ∈ ws, IsWord w ∧ '#' ∉ w

theorem isLineEnd_of_spaced (hws : AreSpecs ws) (h : Spaced ws cs) :
    ∀ c ∈ cs, isLineEnd c = false := by
  intro c hc
  rcases h.mem hc with hgap | ⟨w, hw, hc⟩
  · exact hgap.2
  · exact Text.isLineEnd_of_isBlank_eq_false ((hws w hw).1.solid c hc)

theorem IsRemark.isLineEnd {remark : List Char} (h : IsRemark remark) :
    ∀ c ∈ remark, isLineEnd c = false := by
  cases h with
  | none => exact fun c hc => absurd hc List.not_mem_nil
  | comment h => exact List.forall_mem_cons.2 ⟨by decide, h⟩

/-- The specs of a line are those that it is written with. -/
theorem specsOf_spaced {remark : List Char} (hws : AreSpecs ws) (h : Spaced ws cs)
    (hremark : IsRemark remark) : specsOf (cs ++ remark) = ws.map String.ofList := by
  have hcs : ∀ c ∈ cs, c != '#' := by
    intro c hc
    rw [bne_iff_ne]
    rintro rfl
    rcases h.mem hc with hgap | ⟨w, hw, hc⟩
    · exact absurd hgap.1 (by decide)
    · exact (hws w hw).2 hc
  have htake : (cs ++ remark).takeWhile (· != '#') = cs := by
    rw [List.takeWhile_append_of_pos hcs]
    cases hremark with
    | none => exact List.append_nil cs
    | comment => exact List.append_nil cs
  rw [specsOf, htake, h.words_eq fun w hw => (hws w hw).1]

theorem areSpecs_of_isSpec {as : List Artifact} (hws : List.Forall₂ Artifact.IsSpec as ws)
    (h : ∀ a ∈ as, a.IsPlain) : AreSpecs ws := by
  induction hws with
  | nil => exact fun w hw => absurd hw List.not_mem_nil
  | cons hspec hws ih =>
    obtain ⟨ha, has⟩ := List.forall_mem_cons.1 h
    exact List.forall_mem_cons.2 ⟨hspec.isWord ha, ih has⟩

/-- A group is made of the specs of artifacts. -/
theorem mapM_toArtifact {as : List Artifact} (hws : List.Forall₂ Artifact.IsSpec as ws)
    (h : ∀ a ∈ as, a.IsPlain) :
    ((ws.map String.ofList).map Value.text).mapM Value.toArtifact = .ok as := by
  induction hws with
  | nil => rfl
  | @cons a w as ws hspec hws ih =>
    obtain ⟨ha, has⟩ := List.forall_mem_cons.1 h
    have hread : (Value.text (String.ofList w)).toArtifact = .ok a := hspec.ofSpec_eq ha
    rw [List.map_cons, List.map_cons, List.mapM_cons, hread, ih has]
    rfl

/-- The specs of an entry are read as the entry. -/
theorem entryOf_specs (he : Listable e) (hws : List.Forall₂ Artifact.IsSpec e.artifacts ws) :
    entryOf (ws.map String.ofList) = .ok (some e.value) := by
  have hartifacts := mapM_toArtifact hws he.plain
  cases e with
  | bare a =>
    cases hws with
    | cons hspec hws =>
      cases hws with
      | nil =>
        rw [List.map_cons, List.map_nil, entryOf, hspec.ofSpec_eq (he.plain a List.mem_cons_self)]
        rfl
  | group selected alternates =>
    cases hws with
    | @cons _ w _ _ hspec hws =>
      cases hws with
      | nil => exact absurd rfl (he.several selected)
      | @cons _ w' _ ws hspec' hws =>
        have hgroup : entryOf ((w :: w' :: ws).map String.ofList) = (Value.toProviders
            (((w :: w' :: ws).map String.ofList).map Value.text)).map some := rfl
        rw [hgroup, Value.toProviders, hartifacts]
        rfl

/-- A line is written with specs, which are read as its entry. -/
theorem IsLine.exists_specs {e : Option ValidEntry} (h : IsLine e line)
    (he : ∀ x ∈ e, Listable x) : ∃ ws cs remark, line = cs ++ remark ∧ AreSpecs ws ∧
      Spaced ws cs ∧ IsRemark remark ∧
      entryOf (ws.map String.ofList) = .ok (e.map ValidEntry.value) := by
  cases h with
  | entry hws hspecs hremark =>
    have he := he _ rfl
    exact ⟨_, _, _, rfl, areSpecs_of_isSpec hws he.plain, hspecs, hremark, entryOf_specs he hws⟩
  | blank hgap hremark =>
    exact ⟨[], _, _, rfl, fun w hw => absurd hw List.not_mem_nil, .gap hgap, hremark, rfl⟩

theorem IsLine.entryOf_eq {e : Option ValidEntry} (h : IsLine e line)
    (he : ∀ x ∈ e, Listable x) : entryOf (specsOf line) = .ok (e.map ValidEntry.value) := by
  obtain ⟨ws, cs, remark, rfl, hws, hspecs, hremark, hentry⟩ := h.exists_specs he
  rw [specsOf_spaced hws hspecs hremark, hentry]

theorem IsLine.isLineEnd {e : Option ValidEntry} (h : IsLine e line)
    (he : ∀ x ∈ e, Listable x) : ∀ c ∈ line, isLineEnd c = false := by
  obtain ⟨ws, cs, remark, rfl, hws, hspecs, hremark, -⟩ := h.exists_specs he
  exact List.forall_mem_append.2 ⟨isLineEnd_of_spaced hws hspecs, hremark.isLineEnd⟩

/-! ## Texts -/

/-- Lines are read as entries, whatever the number of the first. -/
def ReadsAs (lines : List (List Char)) (es : List ValidEntry) : Prop :=
  ∀ n, ofLines n lines = .ok (es.map ValidEntry.value)

theorem readsAs_cons {e : Option ValidEntry} (h : IsLine e line) (he : ∀ x ∈ e, Listable x)
    (hrest : ∀ n, ofLines (n + 1) lines = .ok (es.map ValidEntry.value)) :
    ReadsAs (line :: lines) (e.toList ++ es) := by
  intro n
  rw [ofLines, h.entryOf_eq he]
  simp only [hrest n]
  cases e <;> rfl

theorem ofLines_cons_nil (n : Nat) (lines : List (List Char)) :
    ofLines n ([] :: lines) = ofLines (n + 1) lines := by
  have hentry : entryOf (specsOf []) = .ok none := rfl
  rw [ofLines, hentry]
  cases ofLines (n + 1) lines <;> rfl

theorem ofLines_concat_nil (n : Nat) (lines : List (List Char)) :
    ofLines n (lines ++ [[]]) = ofLines n lines := by
  induction lines generalizing n with
  | nil => exact ofLines_cons_nil n []
  | cons line lines ih => rw [List.cons_append, ofLines, ofLines, ih]

/-- An empty line at the end does not count. -/
theorem ofLines_dropLastEmpty (n : Nat) (lines : List (List Char)) :
    ofLines n (Text.dropLastEmpty lines) = ofLines n lines := by
  rw [Text.dropLastEmpty]
  split
  · rename_i h
    obtain ⟨init, rfl⟩ := List.getLast?_eq_some_iff.1 h
    rw [List.dropLast_concat, ofLines_concat_nil]
  · rfl

/-- The lines of a layout are read as its entries. -/
theorem Layout.readsAs (h : Layout es cs) (hes : ∀ e ∈ es, Listable e) :
    ReadsAs (pieces cs) es := by
  induction h with
  | @last e line h =>
    have he : ∀ x ∈ e, Listable x := fun x hx => hes x (Option.mem_toList.2 hx)
    rw [Text.pieces_of_line (h.isLineEnd he), ← List.append_nil e.toList]
    exact readsAs_cons h he fun n => rfl
  | @line e es line ending rest h hending hrest ih =>
    rw [List.forall_mem_append] at hes
    have he : ∀ x ∈ e, Listable x := fun x hx => hes.1 x (Option.mem_toList.2 hx)
    have hlines := ih hes.2
    obtain ⟨tail, hpieces, htail⟩ := Text.pieces_append_break (h.isLineEnd he) hending rest
    rw [hpieces]
    refine readsAs_cons h he fun n => ?_
    -- A line feed after a carriage return is no line of its own, but it has no entry.
    rcases htail with htail | htail
    · rw [← htail, hlines]
    · rw [← ofLines_cons_nil, ← htail, hlines]

/-- Reading a layout of entries gives the entries. -/
theorem loadList_layout {text : String} {p : Path} {s : Session}
    (h : Layout es text.toList) (hes : ∀ e ∈ es, Listable e)
    (hread : s.workspace.readFile p = .ok text.toUTF8) :
    (loadList p).runIn s = (.ok (es.map ValidEntry.value), s) := by
  have hparse : parse text = .ok (es.map ValidEntry.value) := by
    rw [parse, Text.lines, ofLines_dropLastEmpty]
    exact h.readsAs hes 1
  simp only [loadList, Work.runIn_bind, Work.readFile, Work.runIn_inspect, hread, mapError_ok,
    Work.runIn_ofExcept, entriesOfList, Text.decodeUtf8_toUTF8, hparse]

/-- An artifact with a short spec. -/
def jar : Artifact := ⟨"g", "a", "1", "jar", none⟩

/-- An artifact with a full spec only. -/
def tests : Artifact := ⟨"h", "b", "2", "war", some "tests"⟩

/-- A layout of a group of both and of the second alone, with a comment, an empty line, a
    line with a comment only, and different gaps and ends of lines. -/
def sample : String := "\tg:a:1\u00a0 h:b:war:tests:2 # both\r\n\x0c#\rh:b:war:tests:2"

theorem layout_sample : Layout [.group jar [tests], .bare tests] sample.toList := by
  have hboth : Spaced [jar.provider.toList, tests.spec.toList] (['\t'] ++
      (jar.provider.toList ++ (['\u00a0', ' '] ++ (tests.spec.toList ++ [' '])))) :=
    .word (by decide) (fun _ => rfl) (.word (by decide) (fun h => absurd rfl h) (.gap (by decide)))
  have hone : Spaced [tests.spec.toList] ([] ++ (tests.spec.toList ++ [])) :=
    .word (by decide) (fun h => absurd rfl h) (.gap (by decide))
  have hcomment : ∀ c ∈ " both".toList, isLineEnd c = false := by decide
  have hgroup : IsLine (some (.group jar [tests])) _ :=
    .entry (.cons (.short rfl rfl) (.cons .full .nil)) hboth (.comment hcomment)
  have hbare : IsLine (some (.bare tests)) _ := .entry (.cons .full .nil) hone .none
  have hempty : IsLine none ([] ++ []) := .blank (by decide) .none
  have hremark : IsLine none ([] ++ ['#']) := .blank (by decide) (.comment (by decide))
  have hlayout : Layout [.group jar [tests], .bare tests] _ :=
    .line hgroup .pair (.line hempty (.single (c := '\x0c') rfl)
      (.line hremark (.single (c := '\r') rfl) (.last hbare)))
  refine Eq.subst (motive := Layout _) ?_ hlayout
  decide +kernel

theorem listable_samples : ∀ e ∈ [ValidEntry.group jar [tests], .bare tests], Listable e := by
  have hjar : jar.IsPlain := ⟨by decide, by decide, by decide, by decide, by decide⟩
  have htests : tests.IsPlain := ⟨by decide, by decide, by decide, by decide, by decide⟩
  simp only [List.forall_mem_cons, List.not_mem_nil]
  refine ⟨⟨?_, fun a h => by cases h⟩, ⟨?_, fun a h => by cases h⟩, fun _ h => h.elim⟩
  · exact List.forall_mem_cons.2 ⟨hjar, List.forall_mem_singleton.2 htests⟩
  · exact List.forall_mem_singleton.2 htests

theorem loadList_layout_sample : ∃ s : Session,
    Layout [.group jar [tests], .bare tests] sample.toList ∧
    (∀ e ∈ [ValidEntry.group jar [tests], .bare tests], Listable e) ∧
    s.workspace.readFile (.ofString "deps.txt") = .ok sample.toUTF8 ∧
    (loadList (.ofString "deps.txt")).runIn s =
      (.ok [.providers [.artifact jar, .artifact tests], .artifact tests], s) := by
  have hread : (Workspace.holding [("deps.txt", sample)]).readFile (.ofString "deps.txt") =
      .ok sample.toUTF8 := rfl
  exact ⟨⟨.holding [("deps.txt", sample)], [], [], []⟩, layout_sample, listable_samples, hread,
    loadList_layout layout_sample listable_samples hread⟩

end JavaBuild.DependencyList
