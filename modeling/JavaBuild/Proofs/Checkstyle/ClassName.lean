import JavaBuild.Proofs.Checkstyle.Selection
import JavaBuild.Proofs.Path

/-!
# Class names and places of sources

The class of a source has the names that lead to the source, with dots between them. So each
dotted name is that of the source in its place (`sourcePath`, `className_sourcePath`). A dot in
a directory's name may be taken for one between two names; but if there are no dots other than
that of the ending, class names are different for different sources (`className_corresponds`).
-/

namespace JavaBuild.Checkstyle

open Config (javaSuffix)

variable {d p q : Path} {folders folders' : List String} {stem stem' name : String}

/-! ## The source of a class -/

/-- The names between the dots of a text. -/
def segments (name : String) : List String := (name.toList.splitOn '.').map String.ofList

/-- A dotted name whose segments can be names in a path. -/
def IsDotted (name : String) : Prop :=
  ∀ segment ∈ segments name, segment ≠ "" ∧ '/' ∉ segment.toList

instance (name : String) : Decidable (IsDotted name) :=
  inferInstanceAs (Decidable (∀ segment ∈ segments name, segment ≠ "" ∧ '/' ∉ segment.toList))

/-- The place of the source of a class, as seen from the directory of the sources. -/
def sourcePath (name : String) : Path :=
  .ofString ("/".intercalate (segments name) ++ javaSuffix)

theorem intercalate_segments (name : String) : ".".intercalate (segments name) = name := by
  rw [segments, Text.intercalate_splitOn rfl, String.ofList_toList]

theorem exists_segments_eq (name : String) : ∃ folders stem, segments name = folders ++ [stem] := by
  have hne : segments name ≠ [] := by simp [segments, List.splitOn_ne_nil]
  exact ⟨_, _, (List.dropLast_concat_getLast hne).symm⟩

theorem isName_of_segment (h : stem ≠ "" ∧ '/' ∉ stem.toList) (hmem : stem ∈ segments name) :
    Path.IsName stem := by
  refine ⟨h.2, h.1, ?_⟩
  rintro rfl
  exact Text.notMem_of_mem_splitOn hmem (by decide)

theorem isName_java (h : '/' ∉ stem.toList) : Path.IsName (stem ++ javaSuffix) := by
  have hletter : 'j' ∈ (stem ++ javaSuffix).toList := by
    rw [String.toList_append]
    exact List.mem_append_right _ (by decide)
  refine ⟨?_, fun hempty => ?_, fun hdot => ?_⟩
  · rw [String.toList_append, List.mem_append, not_or]
    exact ⟨h, by decide⟩
  · exact absurd (hempty ▸ hletter) (by decide)
  · exact absurd (hdot ▸ hletter) (by decide)

/-- The names of the source of a class are the segments, the last one with the ending. -/
theorem sourcePath_eq (h : IsDotted name) (hname : segments name = folders ++ [stem]) :
    sourcePath name = ⟨.relative, folders ++ [stem ++ javaSuffix]⟩ := by
  have hjoined : "/".intercalate (folders ++ [stem]) ++ javaSuffix =
      "/".intercalate (folders ++ [stem ++ javaSuffix]) := by
    by_cases hfolders : folders = []
    · simp [hfolders]
    · rw [String.intercalate_append_of_ne_nil hfolders (List.cons_ne_nil _ _),
        String.intercalate_append_of_ne_nil hfolders (List.cons_ne_nil _ _), String.append_assoc]
      simp
  rw [sourcePath, hname, hjoined]
  refine Path.ofString_intercalate (fun name' hname' => ?_) (List.concat_ne_nil _ _)
  rw [IsDotted, hname] at h
  rcases List.mem_append.1 hname' with hfolder | hfile
  · have hmem := List.mem_append_left [stem] hfolder
    exact isName_of_segment (h _ hmem) (hname ▸ hmem)
  · rw [List.mem_singleton.1 hfile]
    exact isName_java (h stem List.mem_concat_self).2

/-- The class of a Java file. -/
theorem className_java (d : Path) (folders : List String) (stem : String) :
    className (d.extend (folders ++ [stem ++ javaSuffix])) d =
      .ok (".".intercalate (folders ++ [if stem = "" then javaSuffix else stem])) := by
  have hsuffix : Path.splitSuffix (stem ++ javaSuffix) =
      if stem = "" then (javaSuffix, "") else (stem, javaSuffix) :=
    Path.splitSuffix_append stem (List.cons_ne_nil _ _) (by decide)
  rw [className_extend, hsuffix]
  split <;> rfl

/-- The source in the place of a class has this class. -/
theorem className_sourcePath (d : Path) (h : IsDotted name) :
    className (d.join (sourcePath name)) d = .ok name := by
  obtain ⟨folders, stem, hname⟩ := exists_segments_eq name
  have hstem : stem ≠ "" := (h stem (hname ▸ List.mem_concat_self)).1
  have hjoin : d.join (sourcePath name) = d.extend (folders ++ [stem ++ javaSuffix]) := by
    rw [sourcePath_eq h hname, Path.join, if_pos rfl, Path.extend]
  rw [hjoin, className_java, if_neg hstem, ← hname, intercalate_segments]

/-! ## The class of a source -/

/-- A source below a directory, with these names. There are no dots in them but for that of the
    ending. -/
structure HasPlainNames (d p : Path) (folders : List String) (stem : String) : Prop where
  relative : p.relativeTo? d = some ⟨.relative, folders ++ [stem ++ javaSuffix]⟩
  folders : ∀ folder ∈ folders, '.' ∉ folder.toList
  stem : '.' ∉ stem.toList

/-- A source below a directory, in whose names there are no dots but for that of the ending. -/
def IsPlainSource (d p : Path) : Prop := ∃ folders stem, HasPlainNames d p folders stem

theorem HasPlainNames.eq_extend (h : HasPlainNames d p folders stem) :
    p = d.extend (folders ++ [stem ++ javaSuffix]) := by
  have hrelative := h.relative
  rw [Path.relativeTo?] at hrelative
  split at hrelative
  · rename_i hbelow
    obtain ⟨names, hnames⟩ := List.isPrefixOf_iff_prefix.1 hbelow.2
    rw [← hnames, List.drop_left] at hrelative
    obtain rfl : names = folders ++ [stem ++ javaSuffix] := by simpa using hrelative
    obtain ⟨anchor, parts⟩ := p
    obtain ⟨rfl, -⟩ := hbelow
    exact congrArg (Path.mk _) hnames.symm
  · cases hrelative

/-- The segments of the class of a source. A file that is called by the ending only has an
    empty name before the dot of the ending. -/
def classSegments (folders : List String) (stem : String) : List String :=
  if stem = "" then (folders ++ [""]) ++ ["java"] else folders ++ [stem]

theorem HasPlainNames.className_eq (h : HasPlainNames d p folders stem) :
    className p d = .ok (".".intercalate (classSegments folders stem)) := by
  -- Without a stem, the dot of the ending separates an empty name from `java`.
  have hending : ".".intercalate (folders ++ [javaSuffix]) =
      ".".intercalate ((folders ++ [""]) ++ ["java"]) := by
    rw [List.append_assoc]
    by_cases hfolders : folders = []
    · rw [hfolders]
      decide
    · rw [String.intercalate_append_of_ne_nil hfolders (List.cons_ne_nil _ _),
        String.intercalate_append_of_ne_nil hfolders (by simp)]
      rfl
  rw [h.eq_extend, className_java, classSegments]
  split
  · rw [hending]
  · rfl

theorem classSegments_ne_nil (folders : List String) (stem : String) :
    classSegments folders stem ≠ [] := by
  rw [classSegments]
  split <;> exact List.concat_ne_nil _ _

theorem HasPlainNames.dot_notMem (h : HasPlainNames d p folders stem) :
    ∀ segment ∈ classSegments folders stem, '.' ∉ segment.toList := by
  intro segment hsegment
  rw [classSegments] at hsegment
  split at hsegment
  · simp only [List.append_assoc, List.mem_append, List.mem_cons, List.not_mem_nil,
      or_false] at hsegment
    rcases hsegment with hfolder | rfl | rfl
    · exact h.folders segment hfolder
    · decide
    · decide
  · rcases List.mem_append.1 hsegment with hfolder | hstem
    · exact h.folders segment hfolder
    · rw [List.mem_singleton.1 hstem]
      exact h.stem

/-- The names of a source can be told from the segments of its class. -/
theorem classSegments_injective (hne : "" ∉ folders) (hne' : "" ∉ folders')
    (h : classSegments folders stem = classSegments folders' stem') :
    folders = folders' ∧ stem = stem' := by
  rw [classSegments, classSegments] at h
  split at h <;> split at h <;> obtain ⟨hfolders, hlast⟩ := List.append_inj' h rfl
  · rename_i hstem hstem'
    rw [hstem, hstem']
    exact ⟨List.append_cancel_right hfolders, rfl⟩
  · exact absurd (hfolders ▸ List.mem_concat_self) hne'
  · exact absurd (hfolders ▸ List.mem_concat_self) hne
  · exact ⟨hfolders, List.singleton_inj.1 hlast⟩

/-- No name of a written path is empty. -/
theorem HasPlainNames.empty_notMem {text : String}
    (h : HasPlainNames d (.ofString text) folders stem) : "" ∉ folders := by
  intro hmem
  have hname : "" ∈ (Path.ofString text).parts := by
    rw [h.eq_extend]
    exact List.mem_append_right _ (List.mem_append_left _ hmem)
  exact (Path.isName_of_mem_ofString hname).nonempty rfl

/-- Each dotted name is the class of the source in its place, whatever the directory is. Sources
    without dots in their names, but for that of the ending, have classes, and two of them have
    the same class only if they are the same. -/
theorem className_corresponds (d : Path) :
    (∀ name, IsDotted name → className (d.join (sourcePath name)) d = .ok name) ∧
    ∀ text text', IsPlainSource d (.ofString text) → IsPlainSource d (.ofString text') →
      (∃ name, className (.ofString text) d = .ok name) ∧
      (className (.ofString text) d = className (.ofString text') d →
        Path.ofString text = .ofString text') := by
  refine ⟨fun name h => className_sourcePath d h, ?_⟩
  rintro text text' ⟨folders, stem, h⟩ ⟨folders', stem', h'⟩
  refine ⟨⟨_, h.className_eq⟩, fun hsame => ?_⟩
  rw [h.className_eq, h'.className_eq, Except.ok.injEq] at hsame
  have hsegments := Text.eq_of_intercalate_eq rfl h.dot_notMem h'.dot_notMem
    (classSegments_ne_nil _ _) (classSegments_ne_nil _ _) hsame
  obtain ⟨rfl, rfl⟩ := classSegments_injective h.empty_notMem h'.empty_notMem hsegments
  rw [h.eq_extend, h'.eq_extend]

/-- A directory of sources. -/
def sourceDirectory : Path := .ofString "./src/main//java/"

/-- The source of a class is the same however its path is written. -/
theorem className_corresponds_sample :
    IsDotted "de.msm.Foo" ∧
    className (sourceDirectory.join (sourcePath "de.msm.Foo")) sourceDirectory =
      .ok "de.msm.Foo" ∧
    IsPlainSource sourceDirectory (.ofString "src/main/java/de/msm/Foo.java") ∧
    IsPlainSource sourceDirectory (.ofString "src//main/java/./de/msm/Foo.java") ∧
    className (.ofString "src/main/java/de/msm/Foo.java") sourceDirectory =
      className (.ofString "src//main/java/./de/msm/Foo.java") sourceDirectory ∧
    Path.ofString "src/main/java/de/msm/Foo.java" =
      .ofString "src//main/java/./de/msm/Foo.java" := by
  obtain ⟨hclass, hsources⟩ := className_corresponds sourceDirectory
  have hdotted : IsDotted "de.msm.Foo" := by decide
  have hnames : HasPlainNames sourceDirectory (.ofString "src/main/java/de/msm/Foo.java")
      ["de", "msm"] "Foo" := ⟨by decide, by decide, by decide⟩
  have hnames' : HasPlainNames sourceDirectory (.ofString "src//main/java/./de/msm/Foo.java")
      ["de", "msm"] "Foo" := ⟨by decide, by decide, by decide⟩
  have hsame := hnames.className_eq.trans hnames'.className_eq.symm
  have hplain : IsPlainSource sourceDirectory _ := ⟨_, _, hnames⟩
  have hplain' : IsPlainSource sourceDirectory _ := ⟨_, _, hnames'⟩
  exact ⟨hdotted, hclass _ hdotted, hplain, hplain', hsame, (hsources _ _ hplain hplain').2 hsame⟩

/-- With a dot in the name of a directory, there are other sources of the same class. -/
example : (className (.ofString "src/a.b/C.java") (.ofString "src")).toOption = some "a.b.C" ∧
    (className (.ofString "src/a/b/C.java") (.ofString "src")).toOption = some "a.b.C" := by
  decide +kernel

end JavaBuild.Checkstyle
