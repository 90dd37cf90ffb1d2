import JavaBuild.Pom.Writer
import JavaBuild.Proofs.FileTree.Directories
import JavaBuild.Proofs.Path

/-!
# The places of project object models

The names that lead to the project object model of an artifact determine its
coordinates (`pomSteps_eq_iff`). For an artifact that can be stored (`Storable`),
they stand at the end of the path (`pomPath_eq`) and lead straight down from the
repository (`place_pomPath`). Only the last of them ends in `.pom`, so none of the
directories on the way is the place of another project object model
(`ne_pomSteps_of_prefix`).
-/

namespace JavaBuild.Pom

variable {a b : Artifact} {repository : Path} {w : Workspace} {name : String}

/-! ## Splitting -/

/-- The parts of a group are made of its characters, without the dots. -/
theorem of_mem_groupParts (h : name ∈ groupParts a) {c : Char} (hc : c ∈ name.toList) :
    c ∈ a.group.toList ∧ c ≠ '.' := by
  obtain ⟨part, hpart, rfl⟩ := List.mem_map.1 h
  rw [String.toList_ofList] at hc
  exact Text.of_mem_splitOn hpart hc

/-- The parts of a group determine it. -/
theorem groupParts_eq_iff : groupParts a = groupParts b ↔ a.group = b.group := by
  constructor
  · intro h
    have hgroup := congrArg ".".intercalate h
    rw [groupParts, groupParts, Text.intercalate_splitOn rfl,
      Text.intercalate_splitOn rfl] at hgroup
    simpa using hgroup
  · intro h
    rw [groupParts, groupParts, h]

/-- Project object models that are reached by the same names are of the same
    coordinates. -/
theorem pomSteps_eq_iff : pomSteps a = pomSteps b ↔ a.coordinates = b.coordinates := by
  constructor
  · intro h
    -- Id, version and file name are always the last three.
    obtain ⟨hgroup, hrest⟩ := List.append_inj' h rfl
    simp only [List.cons.injEq] at hrest
    rw [Artifact.coordinates, Artifact.coordinates, groupParts_eq_iff.1 hgroup, hrest.1,
      hrest.2.1]
  · intro h
    simp only [Artifact.coordinates, Coordinates.mk.injEq] at h
    rw [pomSteps, pomSteps, groupParts_eq_iff.2 h.1, pomName, pomName, h.2.1, h.2.2]

theorem pomSteps_ne_nil (a : Artifact) : pomSteps a ≠ [] := by simp [pomSteps]

/-! ## Artifacts that can be stored -/

/-- The end of the names of project object models. -/
def pomSuffix : List Char := ".pom".toList

/-- The name of a directory of its own in a repository. -/
@[mk_iff]
structure IsFolder (name : String) : Prop extends Path.IsName name where
  dots : name ≠ ".."
  suffix : ¬pomSuffix <:+ name.toList

instance (name : String) : Decidable (IsFolder name) := decidable_of_iff' _ (isFolder_iff name)

/-- An artifact with a place of its own in a repository: the parts of its group
    are not empty, and its id and its version name directories that are not taken
    for project object models. -/
@[mk_iff]
structure Storable (a : Artifact) : Prop where
  group : [] ∉ a.group.toList.splitOn '.'
  slash : '/' ∉ a.group.toList
  id : IsFolder a.id
  version : IsFolder a.version

instance (a : Artifact) : Decidable (Storable a) := decidable_of_iff' _ (storable_iff a)

theorem dot_mem_of_suffix (h : pomSuffix <:+ name.toList) : '.' ∈ name.toList :=
  h.subset (by decide)

/-- A name without dots and slashes can be the name of a directory. -/
theorem isFolder_of_not_mem (hslash : '/' ∉ name.toList) (hdot : '.' ∉ name.toList)
    (hne : name ≠ "") : IsFolder name := by
  refine { slash := hslash, nonempty := hne, dot := ?_, dots := ?_,
           suffix := fun hs => hdot (dot_mem_of_suffix hs) }
  · rintro rfl
    exact hdot (by decide)
  · rintro rfl
    exact hdot (by decide)

/-- The parts of the group name directories, … -/
theorem isFolder_of_mem_groupParts (ha : Storable a) (h : name ∈ groupParts a) :
    IsFolder name := by
  refine isFolder_of_not_mem (fun hc => ha.slash (of_mem_groupParts h hc).1)
    (fun hc => (of_mem_groupParts h hc).2 rfl) ?_
  -- A part can be empty only where dots meet, which they do not in the group.
  rintro rfl
  obtain ⟨part, hpart, hnil⟩ := List.mem_map.1 h
  rw [String.ofList_eq_empty_iff] at hnil
  exact ha.group (hnil ▸ hpart)

/-- … while the last of the names is that of a file, … -/
theorem isName_pomName (hid : '/' ∉ a.id.toList) (hversion : '/' ∉ a.version.toList) :
    Path.IsName (pomName a) := by
  have hdash : '-' ∈ (pomName a).toList := by simp [pomName]
  refine ⟨?_, ?_, ?_⟩
  · simp [pomName, hid, hversion]
  · intro h
    rw [h] at hdash
    exact absurd hdash (by decide)
  · intro h
    rw [h] at hdash
    exact absurd hdash (by decide)

theorem pomName_ne_dots (a : Artifact) : pomName a ≠ ".." := by
  intro h
  have hdash : '-' ∈ (pomName a).toList := by simp [pomName]
  rw [h] at hdash
  exact absurd hdash (by decide)

/-- … by its end. -/
theorem suffix_pomName (a : Artifact) : pomSuffix <:+ (pomName a).toList := by
  rw [pomName, String.toList_append]
  exact List.suffix_append _ _

/-- All but the last of the names to a project object model are of directories. -/
theorem isFolder_of_mem_dropLast (ha : Storable a) (h : name ∈ (pomSteps a).dropLast) :
    IsFolder name := by
  have hsteps : (pomSteps a).dropLast = groupParts a ++ [a.id, a.version] := by
    rw [pomSteps, List.dropLast_append_of_ne_nil (List.cons_ne_nil _ _)]
    rfl
  rw [hsteps] at h
  -- A name is of the group, or it is the id or the version.
  rcases List.mem_append.1 h with h | h
  · exact isFolder_of_mem_groupParts ha h
  · simp only [List.mem_cons, List.not_mem_nil, or_false] at h
    rcases h with rfl | rfl
    · exact ha.id
    · exact ha.version

theorem pomSteps_eq_concat (a : Artifact) : pomSteps a = (pomSteps a).dropLast ++ [pomName a] := by
  simp [pomSteps]

/-- All of the names lead straight down. -/
theorem isName_of_mem_pomSteps (ha : Storable a) (h : name ∈ pomSteps a) :
    Path.IsName name ∧ name ≠ ".." := by
  rw [pomSteps_eq_concat] at h
  rcases List.mem_append.1 h with h | h
  · have hfolder := isFolder_of_mem_dropLast ha h
    exact ⟨hfolder.toIsName, hfolder.dots⟩
  · rw [List.mem_singleton.1 h]
    exact ⟨isName_pomName ha.id.slash ha.version.slash, pomName_ne_dots a⟩

theorem dots_not_mem_pomSteps (ha : Storable a) : ".." ∉ pomSteps a := fun h =>
  (isName_of_mem_pomSteps ha h).2 rfl

/-- On the way to a project object model there is no place of another. -/
theorem ne_pomSteps_of_prefix (ha : Storable a) {names : List String}
    (h : names <+: (pomSteps a).dropLast) (b : Artifact) : names ≠ pomSteps b := by
  -- The other one would end in the name of a file, and directories have none such.
  rintro rfl
  have hmem : pomName b ∈ (pomSteps a).dropLast := h.subset (by simp [pomSteps])
  exact (isFolder_of_mem_dropLast ha hmem).suffix (suffix_pomName b)

/-! ## Places below a repository -/

/-- As they lead straight down, the names stand at the end of the path. -/
theorem pomPath_eq (ha : Storable a) (repository : Path) :
    pomPath repository a = ⟨repository.anchor, repository.parts ++ pomSteps a⟩ :=
  Path.foldl_join (fun _ h => (isName_of_mem_pomSteps ha h).1) repository

theorem parts_pomPath_ne_nil (ha : Storable a) (repository : Path) :
    (pomPath repository a).parts ≠ [] := by
  rw [pomPath_eq ha]
  exact List.append_ne_nil_of_right_ne_nil _ (pomSteps_ne_nil a)

theorem pomPath_ne_here (ha : Storable a) (repository : Path) : pomPath repository a ≠ .here :=
  fun h => parts_pomPath_ne_nil ha repository (congrArg Path.parts h)

/-- Artifacts share a path if they are of the same coordinates. -/
theorem pomPath_eq_iff (ha : Storable a) (hb : Storable b) :
    pomPath repository a = pomPath repository b ↔ a.coordinates = b.coordinates := by
  rw [pomPath_eq ha, pomPath_eq hb, Path.mk.injEq, List.append_cancel_left_eq, ← pomSteps_eq_iff]
  exact and_iff_right rfl

/-- A path below the repository starts where the repository does. -/
theorem starts_pomPath (ha : Storable a) :
    w.Starts (pomPath repository a) ↔ w.Starts repository := by
  rw [pomPath_eq ha]
  exact Iff.rfl

/-- A project object model is straight below its repository. -/
theorem place_pomPath (ha : Storable a) (w : Workspace) (repository : Path) :
    w.place (pomPath repository a) = w.place repository ++ pomSteps a := by
  rw [pomPath_eq ha, Workspace.place, Workspace.lexical_append,
    Workspace.lexical_of_not_mem _ (dots_not_mem_pomSteps ha)]
  rfl

/-- Artifacts share a place if they are of the same coordinates. -/
theorem place_pomPath_eq_iff (ha : Storable a) (hb : Storable b) (w : Workspace) :
    w.place (pomPath repository a) = w.place (pomPath repository b) ↔
      a.coordinates = b.coordinates := by
  rw [place_pomPath ha, place_pomPath hb, List.append_cancel_left_eq, pomSteps_eq_iff]

/-- The directories around a project object model are those that lead to the
    repository, and some below it. -/
theorem mem_route_pomPath (ha : Storable a) {m : Location}
    (h : m ∈ w.route (pomPath repository a).parent) : m ∈ w.route repository ∨
      ∃ names, names <+: (pomSteps a).dropLast ∧ m = w.place repository ++ names := by
  rw [← Workspace.way_eq_route_parent w (parts_pomPath_ne_nil ha repository), pomPath_eq ha,
    Workspace.way_append] at h
  -- It lies on the way to the repository, or after it among the names.
  rcases List.mem_append.1 h with h | h
  · exact .inl (List.mem_append_left _ h)
  · obtain ⟨names, hnames, hne, rfl⟩ :=
      Workspace.mem_way_of_not_mem (dots_not_mem_pomSteps ha) h
    refine .inr ⟨names, ?_, rfl⟩
    rw [pomSteps_eq_concat, List.prefix_concat_iff, ← pomSteps_eq_concat] at hnames
    exact hnames.resolve_left hne

theorem mem_route_parent_pomPath (ha : Storable a) {m : Location}
    (h : m ∈ w.route repository) : m ∈ w.route (pomPath repository a).parent := by
  obtain ⟨name, names, hsteps⟩ := List.exists_cons_of_ne_nil (pomSteps_ne_nil a)
  rw [← Workspace.way_eq_route_parent w (parts_pomPath_ne_nil ha repository), pomPath_eq ha,
    Workspace.way_append, hsteps]
  rcases List.mem_append.1 h with h | h
  · exact List.mem_append_left _ h
  · rw [List.mem_singleton.1 h]
    exact List.mem_append_right _ List.mem_cons_self

end JavaBuild.Pom
