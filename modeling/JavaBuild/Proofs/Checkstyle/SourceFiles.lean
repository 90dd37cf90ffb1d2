import JavaBuild.Proofs.Checkstyle.Selection
import JavaBuild.Proofs.FileTree.Descent

/-!
# Files among the selected sources

What is selected is below a source directory, under a name with the ending of Java files
(`Workspace.HoldsJava`). This need not be a file: directories are selected by their names, too,
so all selected sources are files just if no directory with such a name is chosen. Without
patterns, each file with such a name is selected, and once if the source directories are apart
from each other (`Config.selectSources_files`).
-/

namespace JavaBuild

variable {w : Workspace} {d e p : Path} {names names' : Location} {node node' : FileNode}
  {ps : List Path}

namespace Workspace

/-- Something is below a directory, under a name with the ending of Java files. -/
structure HoldsJava (w : Workspace) (d : Path) (names : Location) (node : FileNode) : Prop where
  directory : w.isDirectory d = .ok true
  java : endsIn Checkstyle.Config.javaSuffix names = true
  found : w.files.get? (w.place d ++ names) = some node

/-- There is a file at a location. -/
def HoldsFile (w : Workspace) (l : Location) : Prop := ∃ bytes, w.files.get? l = some (.file bytes)

/-- Of two directories that are there, neither is the other one or below it. -/
def Apart (w : Workspace) (d e : Path) : Prop :=
  w.isDirectory d = .ok true → w.isDirectory e = .ok true →
    ¬w.place d <+: w.place e ∧ ¬w.place e <+: w.place d

theorem HoldsJava.place (h : w.HoldsJava d names node) :
    w.place (d.extend names) = w.place d ++ names := by
  have hdots := FileTree.not_mem_of_get? h.found
  rw [place_extend_eq_lexical, lexical_of_not_mem]
  exact fun hmem => hdots (List.mem_append_right _ hmem)

/-- Below directories that are apart, nothing is at the same location as something else. -/
theorem Apart.ne_place (h : w.Apart d e) (hd : w.HoldsJava d names node)
    (he : w.HoldsJava e names' node') : w.place (d.extend names) ≠ w.place (e.extend names') := by
  intro hsame
  rw [hd.place, he.place] at hsame
  obtain ⟨hde, hed⟩ := h hd.directory he.directory
  have hbelow : w.place e <+: w.place d ++ names := hsame ▸ List.prefix_append _ _
  exact (List.prefix_or_prefix_of_prefix (List.prefix_append _ names) hbelow).elim hde hed

end Workspace

namespace Checkstyle

namespace Config

variable {c : Config}

/-! ## What is selected -/

/-- In a directory, all is selected that has the ending of Java files and is chosen. -/
theorem mem_of_selectIn_eq_ok (h : c.selectIn w d = .ok ps) : p ∈ ps ↔
    ∃ names node, w.HoldsJava d names node ∧ p = d.extend names ∧ c.chosenIn d p = .ok true := by
  rw [selectIn] at h
  split at h
  · cases h
  · -- In a directory that is missing there is no Java file either.
    rename_i hmissing
    cases h
    refine iff_of_false List.not_mem_nil ?_
    rintro ⟨names, node, hjava, -⟩
    cases hmissing.symm.trans hjava.directory
  · rename_i hdirectory
    obtain ⟨loc, hloc⟩ := Workspace.isDirectory_eq_true_iff.1 hdirectory
    have hlocate := (Workspace.inspect_eq_ok_iff.1 hloc).1
    have hplace := Workspace.place_of_locate hlocate
    split at h
    · cases h
    · rename_i found hfound
      rw [mem_of_filterM_eq_ok h, (Workspace.lists_of_findSuffixed hfound).mem_iff]
      constructor
      · rintro ⟨⟨folders, stem, ⟨loc', node, hloc', hnode⟩, hp⟩, hchosen⟩
        rw [Workspace.place_of_locate hloc'] at hnode
        exact ⟨_, node, ⟨hdirectory, Workspace.endsIn_iff.2 ⟨folders, stem, rfl⟩, hnode⟩, hp,
          hchosen⟩
      · rintro ⟨names, node, hjava, hp, hchosen⟩
        obtain ⟨folders, stem, rfl⟩ := Workspace.endsIn_iff.1 hjava.java
        exact ⟨⟨folders, stem, ⟨loc, node, hlocate, hplace ▸ hjava.found⟩, hp⟩, hchosen⟩

theorem mem_of_selectSources_eq_ok (h : c.selectSources w = .ok ps) : p ∈ ps ↔
    ∃ d ∈ c.sources, ∃ names node, w.HoldsJava d names node ∧ p = d.extend names ∧
      c.chosenIn d p = .ok true := by
  obtain ⟨pss, hpss, rfl⟩ := map_eq_ok_iff.1 h
  obtain ⟨-, hmem⟩ := mapM_eq_ok hpss
  rw [List.mem_flatten]
  constructor
  · rintro ⟨ps, hps, hp⟩
    obtain ⟨d, hd, hselect⟩ := (hmem ps).1 hps
    exact ⟨d, hd, (mem_of_selectIn_eq_ok hselect).1 hp⟩
  · rintro ⟨d, hd, hp⟩
    obtain ⟨ps, hselect⟩ := (mapM_eq_ok hpss).1 d hd
    exact ⟨ps, (hmem ps).2 ⟨d, hd, hselect⟩, (mem_of_selectIn_eq_ok hselect).2 hp⟩

/-- The selected sources are files unless a directory is chosen. -/
theorem forall_holdsFile_iff (h : c.selectSources w = .ok ps) :
    (∀ p ∈ ps, w.HoldsFile (w.place p)) ↔ ∀ d ∈ c.sources, ∀ names,
      w.HoldsJava d names .directory → c.chosenIn d (d.extend names) ≠ .ok true := by
  constructor
  · intro hfiles d hd names hjava hchosen
    obtain ⟨bytes, hbytes⟩ := hfiles _
      ((mem_of_selectSources_eq_ok h).2 ⟨d, hd, names, _, hjava, rfl, hchosen⟩)
    rw [hjava.place, hjava.found] at hbytes
    cases hbytes
  · intro hnone p hp
    obtain ⟨d, hd, names, node, hjava, rfl, hchosen⟩ := (mem_of_selectSources_eq_ok h).1 hp
    cases node with
    | file bytes => exact ⟨bytes, hjava.place ▸ hjava.found⟩
    | directory => exact absurd hchosen (hnone d hd names hjava)

/-! ## What is selected once -/

theorem exists_holdsJava (hcompiled : c.Compiled) (hd : w.Listable d) (hp : p ∈ c.selected w d) :
    ∃ names node, w.HoldsJava d names node ∧ p = d.extend names := by
  obtain ⟨names, node, hjava, heq, -⟩ :=
    (mem_of_selectIn_eq_ok (selectIn_eq_ok hcompiled hd).1).1 hp
  exact ⟨names, node, hjava, heq⟩

theorem nodup_place_selected (hcompiled : c.Compiled) (hd : w.Listable d) :
    ((c.selected w d).map w.place).Nodup := by
  refine List.Nodup.map_on (fun p hp q hq hsame => ?_) ((nodup_javaPaths w d).filter _)
  obtain ⟨names, node, hjava, rfl⟩ := exists_holdsJava hcompiled hd hp
  obtain ⟨names', node', hjava', rfl⟩ := exists_holdsJava hcompiled hd hq
  rw [hjava.place, hjava'.place, List.append_cancel_left_eq] at hsame
  rw [hsame]

/-- From directories that are apart, nothing is selected at the same location as something
    else. -/
theorem nodup_place_selectSources (hcompiled : c.Compiled) (hlist : ∀ d ∈ c.sources, w.Listable d)
    (hapart : c.sources.Pairwise w.Apart) (h : c.selectSources w = .ok ps) :
    (ps.map w.place).Nodup := by
  rw [selectSources_eq_ok hcompiled hlist] at h
  cases h
  rw [List.map_flatMap]
  refine List.nodup_flatMap.2 ⟨fun d hd => nodup_place_selected hcompiled (hlist d hd), ?_⟩
  refine hapart.imp_of_mem fun {d e} hd he hde => List.disjoint_left.2 fun l hl hl' => ?_
  obtain ⟨p, hp, rfl⟩ := List.mem_map.1 hl
  obtain ⟨q, hq, hsame⟩ := List.mem_map.1 hl'
  obtain ⟨names, node, hjava, rfl⟩ := exists_holdsJava hcompiled (hlist d hd) hp
  obtain ⟨names', node', hjava', rfl⟩ := exists_holdsJava hcompiled (hlist e he) hq
  exact hde.ne_place hjava hjava' hsame.symm

theorem compiled_of_eq_nil (hincludes : c.includes = []) (hexcludes : c.excludes = []) :
    c.Compiled := by
  intro p hp
  rw [hincludes, hexcludes] at hp
  cases hp

theorem chosenIn_of_eq_nil (hincludes : c.includes = []) (hexcludes : c.excludes = [])
    (d p : Path) : c.chosenIn d p = .ok true := by
  rw [chosenIn, hincludes, hexcludes]
  rfl

/-- All that is selected is there, below a source directory and with the ending of Java files;
    and it is all files unless a directory with this ending is chosen. Without patterns, each
    file with the ending is selected, and once if the directories are apart from each other.
    This is so unless the system refuses a directory, for its path is too long; then the
    selection is refused. -/
theorem selectSources_files (c : Config) (w : Workspace) :
    (∀ ps, c.selectSources w = .ok ps →
      (∀ p ∈ ps, ∃ d ∈ c.sources, ∃ names node, w.HoldsJava d names node ∧
        p = d.extend names ∧ w.files.get? (w.place p) = some node) ∧
      ((∀ p ∈ ps, w.HoldsFile (w.place p)) ↔ ∀ d ∈ c.sources, ∀ names,
        w.HoldsJava d names .directory → c.chosenIn d (d.extend names) ≠ .ok true)) ∧
    (c.includes = [] → c.excludes = [] →
      ((∀ d ∈ c.sources, w.Listable d) → ∃ ps, c.selectSources w = .ok ps ∧
        ∀ d ∈ c.sources, ∀ names bytes, w.HoldsJava d names (.file bytes) →
          d.extend names ∈ ps ∧ (c.sources.Pairwise w.Apart →
            (ps.map w.place).count (w.place d ++ names) = 1)) ∧
      ((∃ d ∈ c.sources, ¬w.Listable d) →
        ∃ p, c.selectSources w = .error (.file (.on .nameTooLong p)))) := by
  refine ⟨fun ps h => ⟨fun p hp => ?_, forall_holdsFile_iff h⟩, fun hincludes hexcludes => ?_⟩
  · obtain ⟨d, hd, names, node, hjava, rfl, -⟩ := (mem_of_selectSources_eq_ok h).1 hp
    exact ⟨d, hd, names, node, hjava, rfl, hjava.place ▸ hjava.found⟩
  · have hcompiled := compiled_of_eq_nil hincludes hexcludes
    refine ⟨fun hlist => ?_, fun ⟨d, hd, hnot⟩ =>
      selectSources_eq_error_of_not_listable hcompiled hd hnot⟩
    have hselected := selectSources_eq_ok hcompiled hlist
    refine ⟨_, hselected, fun d hd names bytes hjava => ?_⟩
    have hmem := (mem_of_selectSources_eq_ok hselected).2
      ⟨d, hd, names, _, hjava, rfl, chosenIn_of_eq_nil hincludes hexcludes d _⟩
    refine ⟨hmem, fun hapart => ?_⟩
    rw [← hjava.place]
    exact List.count_eq_one_of_mem (nodup_place_selectSources hcompiled hlist hapart hselected)
      (List.mem_map_of_mem hmem)

/-- A source is selected once if another directory is missing. -/
theorem selectSources_files_sample :
    (∀ d ∈ (sampleSelection []).sources, sampleSources.Listable d) ∧
    (sampleSelection []).sources.Pairwise sampleSources.Apart ∧
    sampleSources.HoldsJava ⟨.relative, ["src"]⟩ ["a", "C.java"] (.file .empty) ∧
    ∃ ps, (sampleSelection []).selectSources sampleSources = .ok ps ∧
      ⟨.relative, ["src", "a", "C.java"]⟩ ∈ ps ∧
      (ps.map sampleSources.place).count ["w", "src", "a", "C.java"] = 1 := by
  have hapart : (sampleSelection []).sources.Pairwise sampleSources.Apart := by
    obtain ⟨b, hb, rfl⟩ : ∃ b, sampleSources.isDirectory ⟨.relative, ["lib"]⟩ = .ok b ∧
        b = false := by
      decide +kernel
    refine List.pairwise_pair.2 fun _ hlib => ?_
    cases hb.symm.trans hlib
  have hjava : sampleSources.HoldsJava ⟨.relative, ["src"]⟩ ["a", "C.java"] (.file .empty) := by
    obtain ⟨b, hb, rfl⟩ : ∃ b, sampleSources.isDirectory ⟨.relative, ["src"]⟩ = .ok b ∧
        b = true := by
      decide +kernel
    exact ⟨hb, by decide +kernel, rfl⟩
  obtain ⟨ps, hps, honce⟩ :=
    ((selectSources_files (sampleSelection []) sampleSources).2 rfl rfl).1 listable_sampleSources
  obtain ⟨hmem, hcount⟩ := honce _ List.mem_cons_self _ _ hjava
  exact ⟨listable_sampleSources, hapart, hjava, ps, hps, hmem, hcount hapart⟩

/-- A directory that is named like a Java file. -/
def folderSources : Workspace :=
  { sampleSources with files := sampleSources.files.put ["w", "src", "E.java"] .directory }

/-- It is selected as if it were one. -/
theorem not_forall_selectSources_files : ¬∀ (c : Config) (w : Workspace) (ps : List Path),
    c.sources.Pairwise w.Apart → c.selectSources w = .ok ps →
      ∀ p ∈ ps, w.HoldsFile (w.place p) := by
  intro h
  obtain ⟨ps, hps, hmem⟩ : ∃ ps,
      ({ sources := [⟨.relative, ["src"]⟩] } : Config).selectSources folderSources = .ok ps ∧
        ⟨.relative, ["src", "E.java"]⟩ ∈ ps := by
    decide +kernel
  obtain ⟨bytes, hbytes⟩ := h _ _ ps (List.pairwise_singleton _ _) hps _ hmem
  cases hbytes

end Config

end Checkstyle

end JavaBuild
