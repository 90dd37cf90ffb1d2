import JavaBuild.Proofs.Pom.Again
import Mathlib.Data.Fintype.EquivFin

/-!
# Places inside of a repository

The coordinates of an artifact are texts, and each of them may be a path. An absolute one
leaves the repository altogether (`foldl_join_of_not_relative`), and a `..` may lead out of it.
Without these (`Contained`), the project object model is inside of the repository, wherever
that is; and of all other artifacts there is a repository that it is outside of
(`contained_iff_inside`).
-/

namespace JavaBuild

variable {names before : List String} {name : String} {texts : List String}

/-! ## Names that lead inward -/

namespace Workspace

/-- A location is inside of a directory: straight below the place of its path. -/
def Inside (w : Workspace) (base : Path) (l : Location) : Prop :=
  w.place base <+: l ∧ l ≠ w.place base

instance (w : Workspace) (base : Path) : DecidablePred (w.Inside base) := fun _ =>
  inferInstanceAs (Decidable (_ ∧ _))

/-- From so many names below some location, names never lead out of there: there is no `..`
    without a name that it takes back. -/
def leadsInward : (depth : Nat) → List String → Bool
  | _, [] => true
  | depth, name :: names =>
    if name = ".." then 0 < depth && leadsInward (depth - 1) names
    else leadsInward (depth + 1) names

/-- Names that lead inward lead to the same names wherever they start. -/
theorem lexical_of_leadsInward (loc below : Location) (h : leadsInward below.length names) :
    lexical (loc ++ below) names = loc ++ lexical below names := by
  induction names generalizing below with
  | nil => rfl
  | cons name names ih =>
    rw [leadsInward] at h
    change lexical (step (loc ++ below) name) names = loc ++ lexical (step below name) names
    unfold step
    split at h
    · rename_i hname
      obtain ⟨hdepth, hrest⟩ := Bool.and_eq_true_iff.1 h
      have hbelow : below ≠ [] := by simpa [List.length_pos_iff] using hdepth
      rw [if_pos hname, if_pos hname, List.dropLast_append_of_ne_nil hbelow]
      exact ih _ (by rwa [List.length_dropLast])
    · rename_i hname
      rw [if_neg hname, if_neg hname, List.append_assoc]
      exact ih _ (by rwa [List.length_append])

/-- Names that do not lead inward lead out of a directory whose name is not among them, and do
    not come back. -/
theorem notMem_lexical_of_not_leadsInward {below : Location} (hnames : name ∉ names)
    (hbelow : name ∉ below) (h : leadsInward below.length names = false) :
    name ∉ lexical (name :: below) names := by
  induction names generalizing below with
  | nil => cases h
  | cons next names ih =>
    obtain ⟨hnext, hnames⟩ := not_or.1 (mt List.mem_cons.2 hnames)
    rw [leadsInward] at h
    change name ∉ lexical (step (name :: below) next) names
    unfold step
    split at h
    · rename_i hup
      rw [if_pos hup]
      rcases List.eq_nil_or_concat below with rfl | ⟨around, last, rfl⟩
      · -- The directory has been left.
        exact fun hmem => (mem_of_mem_lexical hmem).elim List.not_mem_nil hnames
      · rw [List.concat_eq_append] at *
        rw [← List.cons_append, List.dropLast_concat]
        exact ih hnames (fun hmem => hbelow (List.mem_append_left _ hmem)) (by simpa using h)
    · rename_i hup
      rw [if_neg hup, List.cons_append]
      refine ih hnames ?_ (by simpa using h)
      rw [List.mem_append, List.mem_singleton, not_or]
      exact ⟨hbelow, hnext⟩

end Workspace

/-! ## Texts that are joined to a path -/

namespace Path

/-- Texts that are no absolute paths are joined by their names. -/
theorem foldl_join_of_relative (h : ∀ text ∈ texts, (ofString text).anchor = .relative)
    (p : Path) : texts.foldl (fun p text => p.join (.ofString text)) p =
      p.extend (texts.flatMap fun text => (ofString text).parts) := by
  induction texts generalizing p with
  | nil => rw [List.foldl_nil, List.flatMap_nil, extend, List.append_nil]
  | cons text texts ih =>
    obtain ⟨htext, htexts⟩ := List.forall_mem_cons.1 h
    have hjoin : p.join (ofString text) = p.extend (ofString text).parts := if_pos htext
    rw [List.foldl_cons, ih htexts, hjoin, extend_extend, List.flatMap_cons]

/-- With an absolute path among the texts, it does not matter what they are joined to. -/
theorem foldl_join_of_not_relative (h : ∃ text ∈ texts, (ofString text).anchor ≠ .relative)
    (p q : Path) : texts.foldl (fun p text => p.join (.ofString text)) p =
      texts.foldl (fun p text => p.join (.ofString text)) q := by
  induction texts generalizing p q with
  | nil =>
    obtain ⟨text, htext, -⟩ := h
    cases htext
  | cons text texts ih =>
    rw [List.foldl_cons, List.foldl_cons]
    by_cases htext : (ofString text).anchor = .relative
    · refine ih ?_ _ _
      simpa [htext] using h
    · rw [join, if_neg htext, join, if_neg htext]

/-- The last piece of a text ends as the text does. -/
theorem exists_splitOn_append (cs : List Char) {suffix : List Char} (hslash : '/' ∉ suffix) :
    ∃ pieces stem, (cs ++ suffix).splitOn '/' = pieces ++ [stem ++ suffix] := by
  induction cs with
  | nil => exact ⟨[], [], List.splitOn_eq_singleton hslash⟩
  | cons c cs ih =>
    obtain ⟨pieces, stem, h⟩ := ih
    rw [List.cons_append, List.splitOn_cons_eq_if_modifyHead, h]
    split
    · exact ⟨[] :: pieces, stem, rfl⟩
    · cases pieces with
      | nil => exact ⟨[], c :: stem, rfl⟩
      | cons piece pieces => exact ⟨(c :: piece) :: pieces, stem, rfl⟩

/-- So the last name of a text ends as the text does, too. -/
theorem exists_parts_append (cs : List Char) {suffix : List Char} (hslash : '/' ∉ suffix)
    (hlong : 1 < suffix.length) : ∃ before stem,
      (ofString (String.ofList (cs ++ suffix))).parts =
        before ++ [String.ofList (stem ++ suffix)] := by
  obtain ⟨pieces, stem, h⟩ := exists_splitOn_append cs hslash
  have hname {s : String} (hs : s.toList.length ≤ 1) : String.ofList (stem ++ suffix) ≠ s := by
    rintro rfl
    rw [String.toList_ofList, List.length_append] at hs
    omega
  have hkept : (String.ofList (stem ++ suffix) != "" && String.ofList (stem ++ suffix) != ".") =
      true := by
    rw [bne_iff_ne.2 (hname (by decide)), bne_iff_ne.2 (hname (by decide)), Bool.and_self]
  refine ⟨(pieces.map String.ofList).filter fun name => name != "" && name != ".", stem, ?_⟩
  rw [ofString, namesOf, String.toList_ofList, h, List.map_append, List.filter_append,
    List.map_singleton, List.filter_singleton, hkept, cond_true]

end Path

namespace Pom

variable {a : Artifact}

/-! ## Artifacts inside of a repository -/

/-- The names that the coordinates of an artifact lead through. -/
def pomNames (a : Artifact) : List String :=
  (pomSteps a).flatMap fun text => (Path.ofString text).parts

/-- The coordinates of an artifact do not lead out of a repository: none of them is an absolute
    path, and no `..` takes back more than the names before it. -/
@[mk_iff]
structure Contained (a : Artifact) : Prop where
  relative : ∀ text ∈ pomSteps a, (Path.ofString text).anchor = .relative
  inward : Workspace.leadsInward 0 (pomNames a) = true

instance (a : Artifact) : Decidable (Contained a) := decidable_of_iff' _ (contained_iff a)

theorem pomPath_of_relative (h : ∀ text ∈ pomSteps a, (Path.ofString text).anchor = .relative)
    (repository : Path) : pomPath repository a = repository.extend (pomNames a) :=
  Path.foldl_join_of_relative h repository

/-- The name of a project object model is the last of all. -/
theorem exists_pomNames (a : Artifact) : ∃ folders name, pomNames a = folders ++ [name] ∧
    name ≠ ".." := by
  have hname : (pomName a) = String.ofList ((a.id ++ "-" ++ a.version).toList ++ pomSuffix) := by
    rw [pomName, ← String.toList_inj, String.toList_ofList, String.toList_append]
    rfl
  have hslash : '/' ∉ pomSuffix := by decide
  obtain ⟨before, stem, h⟩ :=
    Path.exists_parts_append (a.id ++ "-" ++ a.version).toList hslash (by decide)
  refine ⟨(groupParts a ++ [a.id, a.version]).flatMap (fun text => (Path.ofString text).parts) ++
    before, String.ofList (stem ++ pomSuffix), ?_, fun hdots => ?_⟩
  · have hsteps : pomSteps a = (groupParts a ++ [a.id, a.version]) ++ [pomName a] := by
      simp [pomSteps]
    rw [pomNames, hsteps, List.flatMap_append, List.flatMap_singleton, hname, h, List.append_assoc]
  · have hdots' := congrArg String.toList hdots
    rw [String.toList_ofList] at hdots'
    have hlength := congrArg List.length hdots'
    rw [List.length_append] at hlength
    have : pomSuffix.length = 4 := rfl
    have : "..".toList.length = 2 := rfl
    omega

/-- Where coordinates do not lead out of it, a project object model is inside of its repository. -/
theorem Contained.inside (h : Contained a) (w : Workspace) (repository : Path) :
    w.Inside repository (w.place (pomPath repository a)) := by
  have hplace : w.place (pomPath repository a) =
      w.place repository ++ Workspace.lexical [] (pomNames a) := by
    rw [pomPath_of_relative h.relative, Workspace.place_extend_eq_lexical]
    have := Workspace.lexical_of_leadsInward (w.place repository) [] h.inward
    rwa [List.append_nil] at this
  obtain ⟨folders, name, hnames, hname⟩ := exists_pomNames a
  have hne : Workspace.lexical [] (pomNames a) ≠ [] := by
    rw [hnames, Workspace.lexical_concat, Workspace.step, if_neg hname]
    exact List.concat_ne_nil _ _
  rw [hplace]
  exact ⟨List.prefix_append _ _, by simpa using hne⟩

theorem place_root (w : Workspace) {name : String} (h : name ≠ "..") :
    w.place ⟨.absolute, [name]⟩ = [name] :=
  if_neg h

/-- Other coordinates lead out of some repository. -/
theorem exists_not_inside (h : ¬Contained a) (w : Workspace) :
    ∃ repository, ¬w.Inside repository (w.place (pomPath repository a)) := by
  by_cases hrelative : ∀ text ∈ pomSteps a, (Path.ofString text).anchor = .relative
  · -- A name that is not among them is left, and does not come back.
    obtain ⟨name, hname⟩ := Infinite.exists_notMem_finset (".." :: pomNames a).toFinset
    rw [List.mem_toFinset, List.mem_cons, not_or] at hname
    have hinward : Workspace.leadsInward 0 (pomNames a) = false := by
      rw [← Bool.not_eq_true]
      exact fun hinward => h ⟨hrelative, hinward⟩
    refine ⟨⟨.absolute, [name]⟩, fun hinside => ?_⟩
    have hplace : w.place (pomPath ⟨.absolute, [name]⟩ a) =
        Workspace.lexical [name] (pomNames a) := by
      rw [pomPath_of_relative hrelative, Workspace.place_extend_eq_lexical, place_root w hname.1]
    have hbelow := hinside.1
    rw [place_root w hname.1, hplace] at hbelow
    exact Workspace.notMem_lexical_of_not_leadsInward hname.2 List.not_mem_nil hinward
      (hbelow.subset List.mem_cons_self)
  · -- It is the same place for all repositories.
    have hsame := Path.foldl_join_of_not_relative (by simpa using hrelative)
      ⟨.absolute, ["a"]⟩ ⟨.absolute, ["b"]⟩
    by_contra hall
    have hinside := not_exists_not.1 hall
    have ha := (hinside ⟨.absolute, ["a"]⟩).1
    have hb := (hinside ⟨.absolute, ["b"]⟩).1
    rw [place_root w (by decide)] at ha hb
    rw [pomPath, hsame] at ha
    rw [pomPath] at hb
    have := List.prefix_of_prefix_length_le ha hb le_rfl
    exact absurd this (by decide)

/-- The artifacts whose project object models are inside of each repository. -/
theorem contained_iff_inside : Contained a ↔
    ∀ w repository, Workspace.Inside w repository (w.place (pomPath repository a)) := by
  refine ⟨Contained.inside, fun h => ?_⟩
  by_contra hnot
  obtain ⟨repository, houtside⟩ := exists_not_inside hnot (.holding [])
  exact houtside (h _ repository)

end Pom

end JavaBuild
