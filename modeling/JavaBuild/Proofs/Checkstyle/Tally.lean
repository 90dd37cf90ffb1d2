import JavaBuild.Checkstyle.Result
import JavaBuild.Proofs.Result

/-!
# Counting violations

The errors and warnings of a result are those of the report it is read from: elements for
violations that stand directly in elements for files, which stand directly in the root
(`ofReport_counts`). A report can be read unless one of them tells a line or a column that
is no number (`exists_ofReport_iff`). With further elements for violations, wherever they
are added, a report can still be read, and has no fewer errors and warnings
(`ofReport_of_moreErrors`).
-/

namespace JavaBuild.Checkstyle

open Xml (Element Name)

variable {root root' e x : Element} {es es' ds ds' : List Element} {file : String}
  {r : Result} {v : Violation} {p : Element → Bool}

/-! ## The elements for violations -/

/-- The elements for violations, in the elements for files among these. -/
def violationsIn (es : List Element) : List Element :=
  (es.filter (·.name == .plain "file")).flatMap (·.childrenNamed (.plain "error"))

/-- The severity is that of an error, also if none is told. -/
def IsError (e : Element) : Prop := ∀ s, e.attribute? "severity" = some s → s = "error"

instance : DecidablePred IsError := fun e =>
  inferInstanceAs (Decidable (∀ s ∈ e.attribute? "severity", s = "error"))

/-- The severity is that of a warning. -/
def IsWarning (e : Element) : Prop := e.attribute? "severity" = some "warning"

instance : DecidablePred IsWarning := fun e =>
  inferInstanceAs (Decidable (e.attribute? "severity" = some "warning"))

/-- The number of errors in a report. -/
def errorsIn (root : Element) : Nat := (violationsIn root.children).countP fun e => IsError e

/-- The number of warnings in a report. -/
def warningsIn (root : Element) : Nat := (violationsIn root.children).countP fun e => IsWarning e

/-- Line and column are numbers if they are told. -/
def IsNumeric (e : Element) : Prop :=
  (∀ s, e.attribute? "line" = some s → ∃ n, Text.readInteger s = .ok n) ∧
    ∀ s, e.attribute? "column" = some s → s ≠ "" → ∃ n, Text.readInteger s = .ok n

instance : DecidablePred IsNumeric := fun e =>
  inferInstanceAs (Decidable
    ((∀ s ∈ e.attribute? "line", ∃ n, Text.readInteger s = .ok n) ∧
      ∀ s ∈ e.attribute? "column", s ≠ "" → ∃ n, Text.readInteger s = .ok n))

/-- The column that an element tells, if it does. -/
def readColumn (e : Element) : Except Failure (Option Int) :=
  match e.attribute? "column" with
  | none | some "" => .ok none
  | some s => (readNumber s).map some

/-- Line and column are read, and all else is taken as it is. -/
theorem readViolation_eq (file : String) (e : Element) : readViolation file e = (do
    let line ← readNumber (attributeOr e "line" "0")
    let column ← readColumn e
    .ok ⟨file, line, column, attributeOr e "severity" "error", attributeOr e "message" "",
      attributeOr e "source" ""⟩) := by
  rw [readViolation, readColumn]
  refine bind_congr fun line => ?_
  generalize e.attribute? "column" = column
  match column with
  | none => rfl
  | some s =>
    by_cases hs : s = ""
    · rw [hs]
      rfl
    · simp only
      rfl

theorem severity_of_readViolation (h : readViolation file e = .ok v) :
    v.severity = attributeOr e "severity" "error" := by
  rw [readViolation_eq] at h
  obtain ⟨line, -, h⟩ := bind_eq_ok_iff.1 h
  obtain ⟨column, -, h⟩ := bind_eq_ok_iff.1 h
  cases h
  rfl

theorem severities_of_readFile {vs : List Violation} (h : readFile e = .ok vs) :
    vs.map (·.severity) =
      (e.childrenNamed (.plain "error")).map (attributeOr · "severity" "error") :=
  map_of_mapM_eq_ok (fun _ _ => severity_of_readViolation) h

/-- The severities in a result are those told in the report. -/
theorem severities_of_ofReport (h : Result.ofReport root = .ok r) :
    r.violations.map (·.severity) =
      (violationsIn root.children).map (attributeOr · "severity" "error") := by
  obtain ⟨vss, hvss, h⟩ := bind_eq_ok_iff.1 h
  cases h
  have hfiles := map_of_mapM_eq_ok (fun _ _ => severities_of_readFile) hvss
  rw [List.map_flatten, hfiles, violationsIn, List.map_flatMap, List.flatMap_def]
  rfl

/-- A result has the errors and warnings of its report. -/
theorem ofReport_counts (h : Result.ofReport root = .ok r) :
    r.errors = errorsIn root ∧ r.warnings = warningsIn root := by
  have hcount (severity : String) : r.countOf severity = (violationsIn root.children).countP
      fun e => attributeOr e "severity" "error" == severity := by
    have hmap := congrArg (List.countP (· == severity)) (severities_of_ofReport h)
    rw [List.countP_map, List.countP_map] at hmap
    exact hmap
  constructor
  · rw [Result.errors, hcount, errorsIn]
    refine List.countP_congr fun e _ => ?_
    cases hs : e.attribute? "severity" <;> simp [attributeOr, IsError, hs]
  · rw [Result.warnings, hcount, warningsIn]
    refine List.countP_congr fun e _ => ?_
    cases hs : e.attribute? "severity" <;> simp [attributeOr, IsWarning, hs]

/-! ## Reports that can be read -/

theorem exists_readNumber_iff {s : String} :
    (∃ n, readNumber s = .ok n) ↔ ∃ n, Text.readInteger s = .ok n := by
  rw [readNumber]
  cases Text.readInteger s <;> simp [mapError_ok, mapError_error]

theorem exists_readLine_iff : (∃ n, readNumber (attributeOr e "line" "0") = .ok n) ↔
    ∀ s, e.attribute? "line" = some s → ∃ n, Text.readInteger s = .ok n := by
  have hzero : Text.readInteger "0" = .ok 0 := rfl
  rw [exists_readNumber_iff]
  cases hs : e.attribute? "line" with
  | none => simp [attributeOr, hs, hzero]
  | some s => simp [attributeOr, hs]

theorem exists_readColumn_iff : (∃ n, readColumn e = .ok n) ↔
    ∀ s, e.attribute? "column" = some s → s ≠ "" → ∃ n, Text.readInteger s = .ok n := by
  rw [readColumn]
  split
  · rename_i hs
    simp [hs]
  · rename_i hs
    simp [hs]
  · rename_i s hne hs
    have hs' : s ≠ "" := hne
    have hmap : (∃ n, (readNumber s).map some = .ok n) ↔ ∃ n, readNumber s = .ok n := by
      cases readNumber s <;> simp [Except.map]
    rw [hmap, exists_readNumber_iff]
    simp [hs, hs']

theorem exists_readViolation_iff : (∃ v, readViolation file e = .ok v) ↔ IsNumeric e := by
  rw [IsNumeric, ← exists_readLine_iff, ← exists_readColumn_iff, readViolation_eq]
  constructor
  · rintro ⟨v, h⟩
    obtain ⟨line, hline, h⟩ := bind_eq_ok_iff.1 h
    obtain ⟨column, hcolumn, -⟩ := bind_eq_ok_iff.1 h
    exact ⟨⟨line, hline⟩, column, hcolumn⟩
  · rintro ⟨⟨line, hline⟩, column, hcolumn⟩
    exact ⟨_, bind_eq_ok_iff.2 ⟨line, hline, bind_eq_ok_iff.2 ⟨column, hcolumn, rfl⟩⟩⟩

/-- A report can be read if the lines and columns of all violations are numbers. -/
theorem exists_ofReport_iff :
    (∃ r, Result.ofReport root = .ok r) ↔ ∀ e ∈ violationsIn root.children, IsNumeric e := by
  have hread : (∃ r, Result.ofReport root = .ok r) ↔
      ∃ vss, (root.childrenNamed (.plain "file")).mapM readFile = .ok vss := by
    constructor
    · rintro ⟨r, h⟩
      obtain ⟨vss, hvss, -⟩ := bind_eq_ok_iff.1 h
      exact ⟨vss, hvss⟩
    · rintro ⟨vss, hvss⟩
      exact ⟨_, bind_eq_ok_iff.2 ⟨vss, hvss, rfl⟩⟩
  simp only [hread, exists_mapM_eq_ok_iff, readFile, exists_readViolation_iff, violationsIn,
    List.mem_flatMap, Element.childrenNamed, forall_exists_index, and_imp]
  exact ⟨fun h x a ha hx => h a ha x hx, fun h a ha x hx => h x a ha hx⟩

theorem readNumber_eq_error {s : String} {f : Failure} (h : readNumber s = .error f) :
    ∃ fault, Text.readInteger s = .error fault ∧ f = .number s fault := by
  obtain ⟨fault, hfault, rfl⟩ := mapError_eq_error_iff.1 h
  exact ⟨fault, hfault, rfl⟩

/-- An element tells a line or a column that is no number. -/
inductive Misnumbers (e : Element) : Failure → Prop
  | mk {name s : String} {fault : Text.IntegerFault} (mem : name ∈ ["line", "column"])
    (told : e.attribute? name = some s) (h : Text.readInteger s = .error fault) :
    Misnumbers e (.number s fault)

theorem readViolation_eq_error {f : Failure} (h : readViolation file e = .error f) :
    Misnumbers e f := by
  rw [readViolation_eq] at h
  rcases bind_eq_error_iff.1 h with h | ⟨line, -, h⟩
  · obtain ⟨fault, hfault, rfl⟩ := readNumber_eq_error h
    cases htold : e.attribute? "line" with
    | none =>
      -- The default is a number.
      rw [attributeOr, htold] at hfault
      cases hfault
    | some s =>
      rw [attributeOr, htold] at hfault ⊢
      exact .mk (by simp) htold hfault
  · rcases bind_eq_error_iff.1 h with h | ⟨column, -, h⟩
    · rw [readColumn] at h
      split at h
      · cases h
      · cases h
      · rename_i s _ htold
        obtain ⟨fault, hfault, rfl⟩ := readNumber_eq_error (map_eq_error_iff.1 h)
        exact .mk (by simp) htold hfault
    · cases h

/-- A report cannot be read because of a line or a column that is no number. -/
theorem ofReport_eq_error {f : Failure} (h : Result.ofReport root = .error f) :
    ∃ e ∈ violationsIn root.children, Misnumbers e f := by
  rcases bind_eq_error_iff.1 h with h | ⟨vss, -, h⟩
  · obtain ⟨file, hfile, h⟩ := exists_of_mapM_eq_error h
    obtain ⟨e, he, h⟩ := exists_of_mapM_eq_error h
    exact ⟨e, List.mem_flatMap.2 ⟨file, hfile, he⟩, readViolation_eq_error h⟩
  · cases h

/-! ## Further elements for violations -/

/-- The same elements, but for further elements for violations anywhere in them. -/
inductive MoreErrors : List Element → List Element → Prop
  | nil : MoreErrors [] []
  | same {e e' : Element} {es es' : List Element} (name : e'.name = e.name)
    (attributes : e'.attributes = e.attributes) (children : MoreErrors e.children e'.children)
    (rest : MoreErrors es es') : MoreErrors (e :: es) (e' :: es')
  | added {x : Element} {es es' : List Element} (name : x.name = .plain "error")
    (numeric : IsNumeric x) (rest : MoreErrors es es') : MoreErrors es (x :: es')

namespace MoreErrors

theorem filter (h : MoreErrors es es') (name : Name) :
    MoreErrors (es.filter (·.name == name)) (es'.filter (·.name == name)) := by
  induction h with
  | nil => exact .nil
  | same hname hattributes hchildren _ _ ih =>
    rw [List.filter_cons, List.filter_cons, hname]
    split
    · exact .same hname hattributes hchildren ih
    · exact ih
  | added hname hnumeric _ ih =>
    rw [List.filter_cons]
    split
    · exact .added hname hnumeric ih
    · exact ih

theorem append (h : MoreErrors es es') (hd : MoreErrors ds ds') :
    MoreErrors (es ++ ds) (es' ++ ds') := by
  induction h with
  | nil => exact hd
  | same hname hattributes hchildren _ _ ih => exact .same hname hattributes hchildren ih
  | added hname hnumeric _ ih => exact .added hname hnumeric ih

/-- What is added in elements for files is added to the violations in them. -/
theorem violationsIn (h : MoreErrors es es') :
    MoreErrors (violationsIn es) (violationsIn es') := by
  induction h with
  | nil => exact .nil
  | @same e e' es es' hname _ hchildren _ _ ih =>
    rw [Checkstyle.violationsIn, Checkstyle.violationsIn, List.filter_cons, List.filter_cons,
      hname]
    split
    · -- An element for a file keeps its name, but may have further violations in it.
      exact (hchildren.filter _).append ih
    · exact ih
  | @added x es es' hname _ _ ih =>
    -- An element for a violation is none for a file.
    have hfile : (x.name == Name.plain "file") = false := by
      rw [hname]
      decide
    have hsame : Checkstyle.violationsIn (x :: es') = Checkstyle.violationsIn es' := by
      rw [Checkstyle.violationsIn, List.filter_cons, hfile]
      rfl
    rw [hsame]
    exact ih

/-- A property of attributes is not had by fewer elements. -/
theorem countP_le (h : MoreErrors es es')
    (hp : ∀ e e' : Element, e'.attributes = e.attributes → p e' = p e) :
    es.countP p ≤ es'.countP p := by
  induction h with
  | nil => exact Nat.le_refl _
  | same _ hattributes _ _ _ ih =>
    rw [List.countP_cons, List.countP_cons, hp _ _ hattributes]
    exact Nat.add_le_add_right ih _
  | added _ _ _ ih =>
    rw [List.countP_cons]
    exact Nat.le_trans ih (Nat.le_add_right _ _)

theorem isNumeric (h : MoreErrors es es') (hes : ∀ e ∈ es, IsNumeric e) :
    ∀ e ∈ es', IsNumeric e := by
  induction h with
  | nil => exact hes
  | same _ hattributes _ _ _ ih =>
    rw [List.forall_mem_cons] at hes ⊢
    refine ⟨?_, ih hes.2⟩
    simpa only [IsNumeric, Element.attribute?, hattributes] using hes.1
  | added _ hnumeric _ ih => exact List.forall_mem_cons.2 ⟨hnumeric, ih hes⟩

end MoreErrors

/-- With further violations a report can still be read, and has no fewer errors and warnings. -/
theorem ofReport_of_moreErrors (h : MoreErrors root.children root'.children)
    (hr : Result.ofReport root = .ok r) : ∃ r', Result.ofReport root' = .ok r' ∧
      r.errors ≤ r'.errors ∧ r.warnings ≤ r'.warnings := by
  have hnumeric := h.violationsIn.isNumeric (exists_ofReport_iff.1 ⟨r, hr⟩)
  obtain ⟨r', hr'⟩ := exists_ofReport_iff.2 hnumeric
  obtain ⟨herrors, hwarnings⟩ := ofReport_counts hr
  obtain ⟨herrors', hwarnings'⟩ := ofReport_counts hr'
  refine ⟨r', hr', ?_, ?_⟩
  · rw [herrors, herrors', errorsIn, errorsIn]
    refine h.violationsIn.countP_le fun e e' hattributes => ?_
    exact decide_eq_decide.2 (by simp only [IsError, Element.attribute?, hattributes])
  · rw [hwarnings, hwarnings', warningsIn, warningsIn]
    refine h.violationsIn.countP_le fun e e' hattributes => ?_
    exact decide_eq_decide.2 (by simp only [IsWarning, Element.attribute?, hattributes])

end JavaBuild.Checkstyle
