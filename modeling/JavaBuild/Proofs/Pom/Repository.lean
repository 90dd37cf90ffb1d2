import JavaBuild.Proofs.Pom.Surrogate

/-!
# Filling a repository

Project object models are added to a repository one after the other (`addAll`),
where a failure does not keep the later ones from being added. If there is nothing
in the repository at first, there is one file for each coordinates afterwards, with
the project object model of all artifacts of these coordinates (`addAll_stored`).
-/

namespace JavaBuild.Pom

variable {a b : Artifact} {all done as : List Artifact} {repository : Path}
  {escapes : Text.Escapes} {w w₀ w' : Workspace} {s : Session}

/-- Add project object models one after the other, also after a failure: the
    answers, and the session afterwards. -/
def addAll (escapes : Text.Escapes) (repository : Path) : List Artifact → Session →
    List (Except Failure Bool) × Session
  | [], s => ([], s)
  | a :: as, s =>
    let (r, s') := (addEscapedPom escapes repository a).runIn s
    let (rs, s'') := addAll escapes repository as s'
    (r :: rs, s'')

theorem addAll_filled (h : Filled w₀ s.workspace repository all done)
    (hr : Ready w₀ repository all) (hdone : done ⊆ all) (has : as ⊆ all)
    (hplain : ∀ a ∈ as, a.IsUnicode escapes) :
    ∃ rs workspace,
      addAll escapes repository as s = (rs, { s with workspace }) ∧ rs.length = as.length ∧
      (∀ i (hi : i < as.length), ∃ r, rs[i]? = some r ∧
        Answers repository (done ++ as.take i) as[i] r) ∧
      Filled w₀ workspace repository all (done ++ as) := by
  -- The invariant is `Filled`: what is done grows by the head, whatever its answer.
  induction as generalizing done s with
  | nil =>
    refine ⟨[], s.workspace, rfl, rfl, fun i hi => absurd hi (Nat.not_lt_zero i), ?_⟩
    rw [List.append_nil]
    exact h
  | cons a as ih =>
    obtain ⟨ha, has⟩ := List.cons_subset.1 has
    obtain ⟨hplain, hplains⟩ := List.forall_mem_cons.1 hplain
    obtain ⟨r, workspace, hrun, hanswer, hfilled⟩ := addPom_filled h hr hdone ha
    have hdone' : done ++ [a] ⊆ all := by simp [hdone, ha]
    obtain ⟨rs, workspace', hrest, hlength, hrs, hfilled'⟩ :=
      ih (s := { s with workspace }) hfilled hdone' has hplains
    refine ⟨r :: rs, workspace', ?_, congrArg Nat.succ hlength, fun i hi => ?_, ?_⟩
    · rw [addAll, addEscapedPom_of_isUnicode hplain, hrun]
      simp only [hrest]
    · cases i with
      | zero => exact ⟨r, rfl, by simpa using hanswer⟩
      | succ i =>
        obtain ⟨r', hr', hanswer'⟩ := hrs i (Nat.lt_of_succ_lt_succ hi)
        exact ⟨r', hr', by simpa using hanswer'⟩
    · rwa [List.append_assoc] at hfilled'

/-- What is in a repository that was vacant in `w` after artifacts have been added:
    a file at the place of each, unless the system does not take its path, and no
    other file. -/
structure Stored (w w' : Workspace) (repository : Path) (as : List Artifact) : Prop where
  files : ∀ l bytes, w.place repository <+: l → (w'.files.get? l = some (.file bytes) ↔
    ∃ a ∈ as, (pomPath repository a).Fits ∧ l = w.place (pomPath repository a) ∧
      bytes = (minimalPom a).toUTF8)
  read : ∀ a ∈ as, (pomPath repository a).Fits →
    w'.readFile (pomPath repository a) = .ok (minimalPom a).toUTF8

/-- Artifacts do not get in the way of each other: they share a path, and a place,
    if they are of the same coordinates, and the first is not in the place of a
    directory around the second. -/
structure KeptApart (w : Workspace) (repository : Path) (a b : Artifact) : Prop where
  path : pomPath repository a = pomPath repository b ↔ a.coordinates = b.coordinates
  place : w.place (pomPath repository a) = w.place (pomPath repository b) ↔
    a.coordinates = b.coordinates
  way : w.place (pomPath repository a) ∉ w.route (pomPath repository b).parent

theorem Filled.stored (h : Filled w₀ w repository all all) (hr : Ready w₀ repository all) :
    Stored w₀ w repository all where
  files l bytes hl := by
    rw [h.file]
    refine or_iff_right fun hold => ?_
    obtain ⟨names, rfl⟩ := hl
    by_cases hnames : names = []
    · rw [hnames, List.append_nil] at hold
      exact hr.clear _ (w₀.place_mem_route repository) bytes hold
    · rw [hr.empty names hnames] at hold
      cases hold
  read a ha hfits := Workspace.readFile_of_inspect <|
    h.inspect_of_mem hr (List.Subset.refl _) ha ha rfl hfits

theorem Ready.keptApart (hr : Ready w repository all) (ha : a ∈ all) (hb : b ∈ all) :
    KeptApart w repository a b where
  path := pomPath_eq_iff (hr.storable a ha) (hr.storable b hb)
  place := place_pomPath_eq_iff (hr.storable a ha) (hr.storable b hb) w
  way := hr.not_mem_route hb ha

/-- A repository that has been filled from nothing with artifacts in which there are no lone
    surrogates is right. Each artifact was answered by whether it was new, or refused if the
    system does not take its path; the files are those of the artifacts that were not refused,
    and no artifact gets in the way of another. -/
theorem addAll_stored (hr : Ready s.workspace repository as)
    (hplain : ∀ a ∈ as, a.IsUnicode escapes) : ∃ rs workspace,
    addAll escapes repository as s = (rs, { s with workspace }) ∧ rs.length = as.length ∧
    (∀ i (hi : i < as.length), ∃ r, rs[i]? = some r ∧
      Answers repository (as.take i) as[i] r) ∧
    Stored s.workspace workspace repository as ∧
    ∀ a ∈ as, ∀ b ∈ as, KeptApart s.workspace repository a b := by
  obtain ⟨rs, workspace, hrun, hlength, hanswers, hfilled⟩ :=
    addAll_filled (.refl hr) hr (List.nil_subset as) (List.Subset.refl as) hplain
  exact ⟨rs, workspace, hrun, hlength, hanswers, hfilled.stored hr,
    fun a ha b hb => hr.keptApart ha hb⟩

/-- There is nothing in a repository in an empty working directory. -/
theorem vacant_holding_nil (h : (Workspace.holding []).place repository = ["w", "repo"]) :
    Vacant (Workspace.holding []) repository where
  starts := by
    rw [Workspace.Starts, Workspace.get?_holding_nil, Workspace.start]
    split
    · exact if_pos (.inl rfl)
    · exact if_pos (.inr rfl)
  clear m _ bytes hfile := by
    rw [Workspace.get?_holding_nil] at hfile
    split at hfile <;> cases hfile
  empty names hnames := by
    rw [h, Workspace.get?_holding_nil, if_neg]
    simp

/-- Artifacts with directories in common, two of the same coordinates. -/
def samples : List Artifact :=
  [⟨"org.a", "b", "1", "jar", none⟩, ⟨"org.a", "b", "1", "war", none⟩,
    ⟨"org", "a", "b", "jar", none⟩]

theorem ready_samples : Ready (Workspace.holding []) (.ofString "repo") samples where
  toVacant := vacant_holding_nil (by decide +kernel)
  storable := by decide +kernel
  apart := by decide +kernel

theorem addAll_stored_samples : Ready (Workspace.holding []) (.ofString "repo") samples ∧
    (∀ a ∈ samples, a.IsUnicode .privateUse) ∧
    (∀ a ∈ samples, (pomPath (.ofString "repo") a).Fits) ∧ ∃ rs workspace,
      addAll .privateUse (.ofString "repo") samples ⟨.holding [], [], [], []⟩ =
        (rs, ⟨workspace, [], [], []⟩) ∧ rs.length = samples.length ∧
      (∀ i (hi : i < samples.length), ∃ r, rs[i]? = some r ∧
        Answers (.ofString "repo") (samples.take i) samples[i] r) ∧
      Stored (.holding []) workspace (.ofString "repo") samples ∧
      ∀ a ∈ samples, ∀ b ∈ samples, KeptApart (.holding []) (.ofString "repo") a b :=
  have hplain : ∀ a ∈ samples, a.IsUnicode .privateUse := by decide +kernel
  ⟨ready_samples, hplain, by decide +kernel,
    addAll_stored (s := ⟨.holding [], [], [], []⟩) ready_samples hplain⟩

/-- An artifact whose id is too long for the name of a directory. -/
def tooLong : Artifact := ⟨"g", String.ofList (List.replicate 256 'a'), "1", "jar", none⟩

theorem eq_of_mem_tooLong {c : Char} (h : c ∈ tooLong.id.toList) : c = 'a' := by
  rw [tooLong, String.toList_ofList] at h
  exact List.eq_of_mem_replicate h

theorem nul_notMem_tooLong :
    '\x00' ∉ (tooLong.group ++ tooLong.id ++ tooLong.version).toList := by
  rw [String.toList_append, String.toList_append, List.mem_append, List.mem_append]
  rintro ((hc | hc) | hc)
  · exact absurd hc (by decide)
  · exact absurd (eq_of_mem_tooLong hc) (by decide)
  · exact absurd hc (by decide)

theorem storable_tooLong : Storable tooLong where
  group := by decide
  slash := by decide
  id := by
    refine isFolder_of_not_mem (fun h => absurd (eq_of_mem_tooLong h) (by decide))
      (fun h => absurd (eq_of_mem_tooLong h) (by decide)) fun h => ?_
    rw [tooLong, String.ofList_eq_empty_iff] at h
    cases h
  version := by decide +kernel

theorem not_fits_tooLong (repository : Path) : ¬(pomPath repository tooLong).Fits := by
  intro h
  have hmem : tooLong.id ∈ (pomPath repository tooLong).parts := by
    rw [pomPath_eq storable_tooLong]
    simp [pomSteps]
  exact absurd (h.names _ hmem) (by decide +kernel)

/-- A working directory that has been removed. -/
def adrift : Session := ⟨⟨.empty, ["w"], [], []⟩, [], [], []⟩

theorem get?_adrift (l : Location) :
    adrift.workspace.files.get? l = if l = [] then some .directory else none := rfl

/-- No file is on the way to anywhere, … -/
theorem clear_adrift (p : Path) : adrift.workspace.Clear p := by
  intro m _ bytes hfile
  rw [get?_adrift] at hfile
  split at hfile <;> cases hfile

/-- … and there is nothing below any place. -/
theorem get?_append_adrift (l : Location) {names : List String} (hnames : names ≠ []) :
    adrift.workspace.files.get? (l ++ names) = none := by
  rw [get?_adrift, if_neg]
  simp [hnames]

/-- An artifact with a lone surrogate in its id. -/
def escaped : Artifact := ⟨"g", "a\ue080", "1", "jar", none⟩

/-- It is refused at first, and then taken for one that has been added. -/
theorem addAll_escaped : ∃ e workspace,
    addAll .privateUse (.ofString "repo") [escaped, escaped] ⟨.holding [], [], [], []⟩ =
      ([.error (.unencodable e), .ok false], ⟨workspace, [], [], []⟩) ∧
    workspace.readFile (pomPath (.ofString "repo") escaped) = .ok .empty := by
  have hnew : ((addPom (.ofString "repo") escaped).runIn
      ⟨.holding [], [], [], []⟩).1.toOption = some true := by
    decide +kernel
  rcases hrun : (addPom (.ofString "repo") escaped).runIn ⟨.holding [], [], [], []⟩ with
    ⟨e | b, s'⟩
  · rw [hrun] at hnew
    cases hnew
  · rw [hrun] at hnew
    cases hnew
    obtain ⟨e, workspace, hfails, hread, hagain⟩ :=
      addEscapedPom_of_not_isUnicode (show ¬escaped.IsUnicode .privateUse by decide +kernel) hrun
    refine ⟨e, workspace, ?_, hread⟩
    simp only [addAll, hfails, hagain]

/-- Not all can be added to a repository in which there is nothing: a name may be too
    long, the way to the repository may lead through the place of a project object
    model, where a directory is made then, the working directory may be gone, and there may
    be lone surrogates, which leave an empty file. -/
theorem not_forall_addAll_ok :
    (¬∀ (s : Session) (repository : Path) (as : List Artifact),
      (∀ a ∈ as, Storable a ∧ '\x00' ∉ (a.group ++ a.id ++ a.version).toList) →
      Vacant s.workspace repository → ∀ r ∈ (addAll .empty repository as s).1, ∃ b, r = .ok b) ∧
    (¬∀ (s : Session) (repository : Path) (as : List Artifact),
      (∀ a ∈ as, Storable a ∧ (pomPath repository a).Fits) →
      Vacant s.workspace repository → ∀ r ∈ (addAll .empty repository as s).1, ∃ b, r = .ok b) ∧
    (¬∀ (s : Session) (repository : Path) (as : List Artifact),
      (∀ a ∈ as, Storable a ∧ (pomPath repository a).Fits ∧
        s.workspace.place (pomPath repository a) ∉ s.workspace.route repository) →
      s.workspace.Clear repository →
      (∀ names, names ≠ [] →
        s.workspace.files.get? (s.workspace.place repository ++ names) = none) →
      ∀ r ∈ (addAll .empty repository as s).1, ∃ b, r = .ok b) ∧
    Ready (Workspace.holding []) (.ofString "repo") [escaped] ∧
    (pomPath (.ofString "repo") escaped).Fits ∧ ∃ e workspace,
      addAll .privateUse (.ofString "repo") [escaped, escaped] ⟨.holding [], [], [], []⟩ =
        ([.error (.unencodable e), .ok false], ⟨workspace, [], [], []⟩) ∧
      workspace.readFile (pomPath (.ofString "repo") escaped) = .ok .empty := by
  refine ⟨fun h => ?_, fun h => ?_, fun h => ?_, ?_⟩
  · -- A name that is too long for the system.
    have hvacant : Vacant (Workspace.holding []) (.ofString "repo") :=
      vacant_holding_nil (by decide +kernel)
    obtain ⟨e, workspace, hrun, -⟩ := addPom_of_not_fits (s := ⟨.holding [], [], [], []⟩)
      (not_fits_tooLong (.ofString "repo"))
    obtain ⟨b, hb⟩ := h ⟨.holding [], [], [], []⟩ (.ofString "repo") [tooLong]
      (List.forall_mem_singleton.2 ⟨storable_tooLong, nul_notMem_tooLong⟩) hvacant
      (.error (.file e)) (by rw [addAll, ← addPom, hrun]; exact List.mem_cons_self)
    cases hb
  · -- A repository whose path leads through the file to be made: a directory is made there.
    have hvacant : Vacant (Workspace.holding []) (.ofString "repo/g/a/1/a-1.pom/../../../..") :=
      vacant_holding_nil (by decide +kernel)
    have hstorable : Storable ⟨"g", "a", "1", "jar", none⟩ := by decide +kernel
    have hfits : (pomPath (.ofString "repo/g/a/1/a-1.pom/../../../..")
      ⟨"g", "a", "1", "jar", none⟩).Fits := by decide +kernel
    obtain ⟨e, workspace, hrun⟩ := addPom_of_mem_route (s := ⟨.holding [], [], [], []⟩) hvacant
      hstorable hfits (by decide +kernel)
    obtain ⟨b, hb⟩ := h ⟨.holding [], [], [], []⟩ _ [_]
      (List.forall_mem_singleton.2 ⟨hstorable, hfits⟩) hvacant
      (.error (.file e)) (by rw [addAll, ← addPom, hrun]; exact List.mem_cons_self)
    cases hb
  · -- A working directory that is gone.
    have hrun : (addAll .empty (.ofString "repo") [⟨"g", "a", "1", "jar", none⟩] adrift).1.all
        Except.isOk = false := by decide +kernel
    obtain ⟨r, hr, hrefused⟩ := List.all_eq_false.1 hrun
    obtain ⟨b, rfl⟩ := h adrift (.ofString "repo") [⟨"g", "a", "1", "jar", none⟩]
      (by decide +kernel) (clear_adrift _) (fun _ => get?_append_adrift _) r hr
    exact hrefused rfl
  · -- A lone surrogate.
    have hready : Ready (Workspace.holding []) (.ofString "repo") [escaped] :=
      ⟨vacant_holding_nil (by decide +kernel), by decide +kernel, by decide +kernel⟩
    exact ⟨hready, by decide +kernel, addAll_escaped⟩

end JavaBuild.Pom
