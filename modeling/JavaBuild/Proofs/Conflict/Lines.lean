import JavaBuild.Proofs.Artifact
import JavaBuild.Proofs.Conflict.Coordinates

/-!
# The lines of a report

No conflict has the line of a report without conflicts, which holds no colon
(`Reports.noConflictsLine_notMem`). A line is a row of words with blanks between them, the
providers among them, each but the last one with a comma after it (`Conflict.line_eq_words`). So
if the fields hold neither blanks nor colons, commas or not, a line is that of one id and one
list of coordinates (`Conflict.eq_of_line_eq`), and the lines of a report tell the ids in
conflict and the coordinates listed for them (`reportLines_faithful`).
-/

namespace JavaBuild

variable {F G : List Artifact} {a b : Artifact} {c d : Conflict} {x y : List Conflict}

/-! ## Joined texts -/

/-- Lists that some function maps to the same are mapped to the same by one that it decides. -/
theorem map_eq_of_map_eq {α β γ : Type} {f : α → β} {g : α → γ} {xs ys : List α}
    (hfg : ∀ x ∈ xs, ∀ y ∈ ys, f x = f y → g x = g y) (h : xs.map f = ys.map f) :
    xs.map g = ys.map g := by
  induction xs generalizing ys with
  | nil =>
    rw [List.map_nil, eq_comm, List.map_eq_nil_iff] at h
    rw [h]
  | cons x xs ih =>
    obtain ⟨y, ys, rfl, hy, hys⟩ := List.map_eq_cons_iff.1 h.symm
    rw [List.forall_mem_cons] at hfg
    rw [List.map_cons, List.map_cons, hfg.1 y List.mem_cons_self hy.symm]
    exact congrArg _ (ih (fun z hz y hy => hfg.2 z hz y (List.mem_cons_of_mem _ hy)) hys.symm)

/-- Texts, each but the last one with a comma after it. -/
def withCommas : List String → List String
  | [] => []
  | [name] => [name]
  | name :: next :: names => (name ++ ",") :: withCommas (next :: names)

theorem withCommas_ne_nil (name : String) (names : List String) :
    withCommas (name :: names) ≠ [] := by
  cases names with
  | nil => exact List.cons_ne_nil _ _
  | cons next names => exact List.cons_ne_nil _ _

/-- The commas stand in front of the blanks. -/
theorem intercalate_withCommas (names : List String) :
    " ".intercalate (withCommas names) = ", ".intercalate names := by
  induction names with
  | nil => rfl
  | cons name names ih =>
    cases names with
    | nil => rw [withCommas, String.intercalate_singleton, String.intercalate_singleton]
    | cons next names =>
      rw [withCommas, String.intercalate_cons_of_ne_nil (withCommas_ne_nil next names), ih,
        String.intercalate_cons_cons]
      exact congrArg (· ++ ", ".intercalate (next :: names)) String.append_assoc

theorem notMem_of_mem_withCommas (h : ∀ name ∈ names, ' ' ∉ name.toList) :
    ∀ word ∈ withCommas names, ' ' ∉ word.toList := by
  fun_induction withCommas names with
  | case1 => exact h
  | case2 name => exact h
  | case3 name next names ih =>
    rw [List.forall_mem_cons] at h ⊢
    refine ⟨?_, ih h.2⟩
    rw [String.toList_append, List.mem_append, not_or]
    exact ⟨h.1, by decide⟩

theorem withCommas_injective (h : withCommas names = withCommas others) : names = others := by
  -- Lists of one and of more names are told apart by what follows the first.
  fun_induction withCommas names generalizing others with
  | case1 =>
    cases others with
    | nil => rfl
    | cons other others => exact absurd h.symm (withCommas_ne_nil other others)
  | case2 name =>
    match others with
    | [other] => exact h
    | other :: next :: others =>
      rw [withCommas] at h
      exact absurd (List.cons.inj h).2.symm (withCommas_ne_nil next others)
  | case3 name next names ih =>
    match others with
    | [other] =>
      rw [withCommas] at h
      exact absurd (List.cons.inj h).2 (withCommas_ne_nil next names)
    | other :: next' :: others =>
      rw [withCommas] at h
      obtain ⟨hname, hnames⟩ := List.cons.inj h
      rw [ih hnames, (String.append_left_inj _).1 hname]

/-! ## Conflicts -/

/-- The fields that name a provider can be told apart in a line: they hold neither colons nor
    blanks. Commas, other white space and empty fields do no harm. -/
structure Artifact.IsLegible (a : Artifact) : Prop where
  colon : ∀ field ∈ a.providerFields, ':' ∉ field.toList
  blank : ∀ field ∈ a.providerFields, ' ' ∉ field.toList

instance : DecidablePred Artifact.IsLegible := fun a =>
  decidable_of_iff ((∀ field ∈ a.providerFields, ':' ∉ field.toList) ∧
    ∀ field ∈ a.providerFields, ' ' ∉ field.toList)
    ⟨fun h => ⟨h.1, h.2⟩, fun h => ⟨h.colon, h.blank⟩⟩

/-- Providers are named by their coordinates. -/
theorem Artifact.coordinates_eq_of_provider_eq (ha : a.IsLegible) (hb : b.IsLegible)
    (h : a.provider = b.provider) : a.coordinates = b.coordinates := by
  rw [provider_eq_intercalate, provider_eq_intercalate] at h
  have hfields := Text.eq_of_intercalate_eq rfl ha.colon hb.colon (List.cons_ne_nil _ _)
    (List.cons_ne_nil _ _) h
  simpa [providerFields, coordinates] using hfields

theorem Artifact.IsLegible.blank_notMem_provider (h : a.IsLegible) : ' ' ∉ a.provider.toList := by
  rw [provider_eq_intercalate, Text.mem_intercalate_iff (by decide)]
  rintro ⟨field, hfield, hblank⟩
  exact h.blank field hfield hblank

namespace Conflict

/-- The words of a line. -/
def words (c : Conflict) : List String :=
  [c.id, "is", "provided", "by"] ++ withCommas (c.providers.map Artifact.provider)

theorem line_eq_words (h : c.providers ≠ []) : c.line = " ".intercalate c.words := by
  have hproviders : withCommas (c.providers.map Artifact.provider) ≠ [] := by
    obtain ⟨p, ps, hp⟩ := List.exists_cons_of_ne_nil h
    rw [hp]
    exact withCommas_ne_nil _ _
  rw [words, String.intercalate_append_of_ne_nil (List.cons_ne_nil _ _) hproviders,
    intercalate_withCommas, line]
  have hstart : " ".intercalate [c.id, "is", "provided", "by"] ++ " " =
      c.id ++ " is provided by " := by
    simp [String.intercalate_cons_cons, String.append_assoc]
  rw [hstart]

/-- What the line of a conflict can be read as: there are providers of its id, whose fields can
    be told apart. -/
structure IsLegible (c : Conflict) : Prop where
  nonempty : c.providers ≠ []
  id : ∀ p ∈ c.providers, p.id = c.id
  providers : ∀ p ∈ c.providers, p.IsLegible

theorem IsLegible.blank_notMem_words (h : c.IsLegible) :
    ∀ word ∈ c.words, ' ' ∉ word.toList := by
  rw [words, List.forall_mem_append]
  constructor
  · obtain ⟨p, hp⟩ := List.exists_mem_of_ne_nil _ h.nonempty
    have hid : ' ' ∉ c.id.toList := by
      rw [← h.id p hp]
      exact (h.providers p hp).blank p.id (by simp [Artifact.providerFields])
    simp only [List.forall_mem_cons]
    exact ⟨hid, by decide, by decide, by decide, fun _ h => absurd h List.not_mem_nil⟩
  · refine notMem_of_mem_withCommas fun name hname => ?_
    obtain ⟨p, hp, rfl⟩ := List.mem_map.1 hname
    exact (h.providers p hp).blank_notMem_provider

/-- A line is that of one id and one list of coordinates. -/
theorem eq_of_line_eq (hc : c.IsLegible) (hd : d.IsLegible) (h : c.line = d.line) :
    c.id = d.id ∧ c.listed = d.listed := by
  rw [line_eq_words hc.nonempty, line_eq_words hd.nonempty] at h
  have hwords : c.words = d.words := Text.eq_of_intercalate_eq rfl hc.blank_notMem_words
    hd.blank_notMem_words (List.cons_ne_nil _ _) (List.cons_ne_nil _ _) h
  obtain ⟨hid, hrest⟩ := List.cons.inj hwords
  have hproviders := withCommas_injective (List.append_cancel_left hrest)
  refine ⟨hid, map_eq_of_map_eq (fun p hp q hq => ?_) hproviders⟩
  exact Artifact.coordinates_eq_of_provider_eq (hc.providers p hp) (hd.providers q hq)

/-- The name of a provider has a colon. -/
theorem colon_mem_line (h : c.providers ≠ []) : ':' ∈ c.line.toList := by
  obtain ⟨p, hp⟩ := List.exists_mem_of_ne_nil _ h
  have hcolon : ':' ∈ p.provider.toList := by simp [Artifact.provider]
  have hjoined : ':' ∈ (", ".intercalate (c.providers.map Artifact.provider)).toList :=
    (Text.mem_intercalate_iff (by decide) _).2 ⟨_, List.mem_map_of_mem hp, hcolon⟩
  rw [line, String.toList_append]
  exact List.mem_append_right _ hjoined

end Conflict

/-! ## Reports -/

theorem Reports.providers_ne_nil (h : Reports F x) (hc : c ∈ x) : c.providers ≠ [] :=
  List.ne_nil_of_length_pos ((Nat.zero_lt_succ _).trans_le (h.several c hc))

/-- No conflict has the line that there is none, whatever the texts of its fields are. -/
theorem Reports.noConflictsLine_notMem (h : Reports F x) :
    noConflictsLine ∉ x.map Conflict.line := by
  intro hmem
  obtain ⟨c, hc, hline⟩ := List.mem_map.1 hmem
  have hcolon := Conflict.colon_mem_line (h.providers_ne_nil hc)
  rw [hline] at hcolon
  exact absurd hcolon (by decide +kernel)

theorem Reports.isLegible (h : Reports F x) (hF : ∀ a ∈ F, a.IsLegible) (hc : c ∈ x) :
    c.IsLegible := by
  have hmem : ∀ p ∈ c.providers, p ∈ F ∧ p.id = c.id := by
    intro p hp
    rw [h.providers c hc] at hp
    exact mem_firstProviders hp
  exact ⟨h.providers_ne_nil hc, fun p hp => (hmem p hp).2, fun p hp => hF p (hmem p hp).1⟩

theorem reportLines_of_ne_nil (h : x ≠ []) : reportLines x = x.map Conflict.line := by
  rw [reportLines, if_neg (by simpa using h)]

/-- The line that there is no conflict is the report only of no conflict. -/
theorem Reports.reportLines_eq_iff (h : Reports F x) :
    reportLines x = [noConflictsLine] ↔ x = [] := by
  refine ⟨fun hlines => ?_, fun hnil => hnil ▸ rfl⟩
  by_contra hne
  rw [reportLines_of_ne_nil hne] at hlines
  exact h.noConflictsLine_notMem (hlines ▸ List.mem_singleton_self _)

theorem Reports.eq_nil_iff (h : Reports F x) : x = [] ↔ ∀ id, ¬InConflict F id := by
  rw [← List.map_eq_nil_iff (f := Conflict.id), List.eq_nil_iff_forall_not_mem]
  exact forall_congr' fun id => not_congr (h.mem_iff id)

/-- Reports with the same lines tell the same ids in conflict, with the same coordinates. -/
theorem Reports.eq_of_reportLines_eq (hx : Reports F x) (hy : Reports G y)
    (hF : ∀ a ∈ F, a.IsLegible) (hG : ∀ a ∈ G, a.IsLegible)
    (h : reportLines x = reportLines y) :
    x.map (fun c => (c.id, c.listed)) = y.map fun c => (c.id, c.listed) := by
  by_cases hnil : x = []
  · have hlines : reportLines y = [noConflictsLine] := h ▸ hx.reportLines_eq_iff.2 hnil
    rw [hnil, hy.reportLines_eq_iff.1 hlines]
  · have hnil' : y ≠ [] := fun hy' =>
      hnil (hx.reportLines_eq_iff.1 (h.trans (hy.reportLines_eq_iff.2 hy')))
    rw [reportLines_of_ne_nil hnil, reportLines_of_ne_nil hnil'] at h
    refine map_eq_of_map_eq (fun c hc d hd hline => ?_) h
    exact Prod.ext_iff.2
      (Conflict.eq_of_line_eq (hx.isLegible hF hc) (hy.isLegible hG hd) hline)

/-- A report of conflicts has a line for each id in conflict, in order, and none of these lines
    is the one that there is no conflict, which is reported only if there is none. If no
    group, id or version holds a blank or a colon, reports with the same lines are of the same
    ids in conflict, each with the same coordinates, in the same order. -/
theorem reportLines_faithful (es : List ValidEntry) : ∃ report,
    analyze (es.map ValidEntry.value) = .ok report ∧
    Reports (es.flatMap ValidEntry.artifacts) report ∧
    (report ≠ [] → reportLines report = report.map Conflict.line) ∧
    noConflictsLine ∉ report.map Conflict.line ∧
    (reportLines report = [noConflictsLine] ↔
      ∀ id, ¬InConflict (es.flatMap ValidEntry.artifacts) id) ∧
    ∀ (fs : List ValidEntry) (other : List Conflict),
      (∀ a ∈ es.flatMap ValidEntry.artifacts, a.IsLegible) →
      (∀ a ∈ fs.flatMap ValidEntry.artifacts, a.IsLegible) →
      analyze (fs.map ValidEntry.value) = .ok other →
      reportLines other = reportLines report →
      other.map (fun c => (c.id, c.listed)) = report.map fun c => (c.id, c.listed) := by
  have hreport := conflicts_reports (es.flatMap ValidEntry.artifacts)
  refine ⟨_, ValidEntry.analyze_value es, hreport, reportLines_of_ne_nil,
    hreport.noConflictsLine_notMem, hreport.reportLines_eq_iff.trans hreport.eq_nil_iff, ?_⟩
  intro fs other hes hfs hother hlines
  rw [ValidEntry.analyze_value, Except.ok.injEq] at hother
  subst hother
  exact (conflicts_reports _).eq_of_reportLines_eq hreport hfs hes hlines

/-- An id and versions with commas, in a group. -/
def commaGroup : List ValidEntry :=
  [.group ⟨"g", "a,b", "1,", "jar", none⟩ [⟨"h,", "a,b", "1", "jar", none⟩]]

/-- The same artifacts, not grouped and with other types, and an artifact between them. -/
def commaRow : List ValidEntry :=
  [.bare ⟨"g", "a,b", "1,", "pom", none⟩, .bare ⟨"g", "api", "1", "jar", none⟩,
    .bare ⟨"h,", "a,b", "1", "jar", some "tests"⟩]

theorem reportLines_faithful_commaGroup :
    ((∀ a ∈ commaGroup.flatMap ValidEntry.artifacts, a.IsLegible) ∧
      ∀ a ∈ commaRow.flatMap ValidEntry.artifacts, a.IsLegible) ∧
    ∃ x y, analyze (commaGroup.map ValidEntry.value) = .ok x ∧
      analyze (commaRow.map ValidEntry.value) = .ok y ∧
      x ≠ [] ∧ reportLines x = ["a,b is provided by g:a,b:1,, h,:a,b:1"] ∧
      reportLines y = reportLines x ∧
      y.map (fun c => (c.id, c.listed)) = x.map fun c => (c.id, c.listed) := by
  have hgroup : ∀ a ∈ commaGroup.flatMap ValidEntry.artifacts, a.IsLegible := by decide +kernel
  have hrow : ∀ a ∈ commaRow.flatMap ValidEntry.artifacts, a.IsLegible := by decide +kernel
  obtain ⟨x, hx, -, -, -, -, hfaithful⟩ := reportLines_faithful commaGroup
  have hy := ValidEntry.analyze_value commaRow
  have hprint : (analyze (commaGroup.map ValidEntry.value)).toOption.map reportLines =
      some ["a,b is provided by g:a,b:1,, h,:a,b:1"] := by decide +kernel
  have hprint' : (analyze (commaRow.map ValidEntry.value)).toOption.map reportLines =
      some ["a,b is provided by g:a,b:1,, h,:a,b:1"] := by decide +kernel
  rw [hx] at hprint
  rw [hy] at hprint'
  have hsame := Option.some.inj (hprint'.trans hprint.symm)
  have hne : x ≠ [] := by
    rintro rfl
    exact absurd hprint (by decide +kernel)
  exact ⟨⟨hgroup, hrow⟩, x, _, hx, hy, hne, Option.some.inj hprint, hsame,
    hfaithful commaRow _ hgroup hrow hy hsame⟩

end JavaBuild
