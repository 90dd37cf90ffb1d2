import JavaBuild.Checkstyle.Source
import JavaBuild.Proofs.FileTree.Listing
import Mathlib.Data.List.Flatten
import Mathlib.Data.List.Nodup

/-!
# Selecting sources

The selected sources (`Config.SelectsAll`) are, directory by directory, all Java paths below it,
in increasing order, of which those are kept whose class names are chosen: one of the included
patterns occurs in them, or there are no included patterns, and none of the excluded patterns
does (`Config.Chooses`). So more excluded patterns, or a first included one, select fewer
sources, and further included patterns more (`selectSources_filters`).

This is so if the system lists the source directories (`Workspace.Listable`): a directory
whose path is too long is refused.
-/

namespace JavaBuild

variable {w : Workspace} {d p : Path} {ps : List Path}

/-- Whether there is a directory at a path can be told, and if there is, the directories
    below it have paths by which they can be listed. -/
structure Workspace.Listable (w : Workspace) (d : Path) : Prop where
  answers : ∃ b, w.isDirectory d = .ok b
  shallow : w.isDirectory d = .ok true → w.Shallow d

/-- A directory is another one, or lies below it. -/
def Path.Covers (d e : Path) : Prop := ∃ names, ".." ∉ names ∧ e = d.extend names

namespace Checkstyle

variable {name : String}

/-! ## Class names -/

/-- The class of a source follows from its names below the directory. -/
theorem className_extend (d : Path) (folders : List String) (file : String) :
    className (d.extend (folders ++ [file])) d =
      .ok (".".intercalate (folders ++ [(Path.splitSuffix file).1])) := by
  have hrelative : (d.extend (folders ++ [file])).relativeTo? d =
      some ⟨.relative, folders ++ [file]⟩ := by
    simp [Path.relativeTo?, Path.extend]
  simp only [className, hrelative, Path.withoutSuffix?, Path.name?, List.getLast?_concat,
    Option.map_some, List.dropLast_concat]

/-- A source that is found below a directory has a class name. -/
theorem exists_className {suffix : String} (h : w.Lists d suffix ps) (hp : p ∈ ps) :
    ∃ name, className p d = .ok name := by
  obtain ⟨folders, stem, -, rfl⟩ := (h.mem_iff p).1 hp
  exact ⟨_, className_extend d folders _⟩

/-! ## Patterns -/

namespace ClassPattern

/-- Patterns that have been compiled. -/
def IsCompiled : ClassPattern → Prop
  | compiled _ => True
  | stray _ => False

/-- A pattern occurs in a class name. -/
def Occurs (name : String) : ClassPattern → Prop
  | compiled p => p.occursIn name
  | stray _ => False

instance (name : String) : DecidablePred (Occurs name)
  | compiled p => inferInstanceAs (Decidable (p.occursIn name = true))
  | stray _ => .isFalse id

end ClassPattern

/-- Compiled patterns can be searched for. -/
theorem anyOccurs_eq_ok {patterns : List ClassPattern} (h : ∀ p ∈ patterns, p.IsCompiled)
    (name : String) : anyOccurs patterns name = .ok (decide (∃ p ∈ patterns, p.Occurs name)) := by
  induction patterns with
  | nil => rfl
  | cons p patterns ih =>
    obtain ⟨hp, hpatterns⟩ := List.forall_mem_cons.1 h
    cases p with
    | compiled p =>
      rw [anyOccurs, ih hpatterns]
      split
      · rename_i hoccurs
        rw [decide_eq_true ⟨_, List.mem_cons_self, hoccurs⟩]
      · rename_i hoccurs
        refine congrArg Except.ok (decide_eq_decide.2 ?_)
        rw [List.exists_mem_cons_iff]
        exact ⟨.inr, fun h => h.resolve_left hoccurs⟩
    | stray v => exact hp.elim

namespace Config

variable {c c' : Config}

/-- All patterns have been compiled. -/
def Compiled (c : Config) : Prop := ∀ p ∈ c.includes ++ c.excludes, p.IsCompiled

theorem Compiled.includes (h : c.Compiled) : ∀ p ∈ c.includes, p.IsCompiled := fun p hp =>
  h p (List.mem_append_left _ hp)

theorem Compiled.excludes (h : c.Compiled) : ∀ p ∈ c.excludes, p.IsCompiled := fun p hp =>
  h p (List.mem_append_right _ hp)

/-- A class is chosen if it is included and not excluded. Without included patterns, all
    classes are. -/
structure Chooses (c : Config) (name : String) : Prop where
  included : c.includes = [] ∨ ∃ p ∈ c.includes, p.Occurs name
  notExcluded : ¬∃ p ∈ c.excludes, p.Occurs name

/-- A class is chosen if a pattern to include it occurs in it, or there are none, and none to
    exclude it does. -/
theorem chooses_iff : c.Chooses name ↔
    (c.includes.isEmpty = true ∨ ∃ p ∈ c.includes, p.Occurs name) ∧
      ¬∃ p ∈ c.excludes, p.Occurs name := by
  rw [List.isEmpty_iff]
  exact ⟨fun h => ⟨h.included, h.notExcluded⟩, fun h => ⟨h.1, h.2⟩⟩

instance (c : Config) (name : String) : Decidable (c.Chooses name) :=
  decidable_of_iff _ chooses_iff.symm

/-- If all patterns are compiled, choosing a class succeeds. -/
theorem chooses_eq_ok (h : c.Compiled) (name : String) :
    c.chooses name = .ok (decide (c.Chooses name)) := by
  -- Once a class is included, it is chosen unless it is excluded.
  have hexcluded (hincluded : c.includes.isEmpty = true ∨ ∃ p ∈ c.includes, p.Occurs name) :
      (Except.ok (!decide (∃ p ∈ c.excludes, p.Occurs name)) : Except Failure Bool) =
        .ok (decide (c.Chooses name)) := by
    rw [← decide_not]
    exact congrArg Except.ok
      (decide_eq_decide.2 (chooses_iff.trans (and_iff_right hincluded)).symm)
  rw [chooses, anyOccurs_eq_ok h.includes, anyOccurs_eq_ok h.excludes]
  by_cases hempty : c.includes.isEmpty = true
  · rw [if_pos hempty]
    exact hexcluded (.inl hempty)
  · rw [if_neg hempty]
    by_cases hincluded : ∃ p ∈ c.includes, p.Occurs name
    · rw [decide_eq_true hincluded]
      exact hexcluded (.inr hincluded)
    · have hnot : ¬c.Chooses name := fun h => (chooses_iff.1 h).1.elim hempty hincluded
      rw [decide_eq_false hincluded, decide_eq_false hnot]
      rfl

/-- The source of a directory has a class that is chosen. -/
def ChoosesIn (c : Config) (d p : Path) : Prop := ∃ name, className p d = .ok name ∧ c.Chooses name

instance (c : Config) (d : Path) : DecidablePred (c.ChoosesIn d) := fun _ => decidableExistsOk

/-- Without patterns, all sources are chosen, as they are by the patterns. -/
theorem chosenIn_eq_ok (h : c.Compiled) (hps : w.Lists d javaSuffix ps) (hp : p ∈ ps) :
    c.chosenIn d p = .ok (decide (c.ChoosesIn d p)) := by
  obtain ⟨name, hname⟩ := exists_className hps hp
  have hchooses : c.ChoosesIn d p ↔ c.Chooses name := by
    simp only [ChoosesIn, hname, Except.ok.injEq, exists_eq_left']
  rw [chosenIn, decide_eq_decide.2 hchooses]
  split
  · rename_i hempty
    simp only [Bool.and_eq_true, List.isEmpty_iff] at hempty
    rw [decide_eq_true ⟨.inl hempty.1, by simp [hempty.2]⟩]
  · rw [hname]
    exact chooses_eq_ok h name

/-! ## Directories -/

/-- What is selected of a directory: of the Java paths below it, in order, those whose classes
    are chosen. Without a directory, there is nothing. -/
inductive SelectsIn (c : Config) (w : Workspace) (d : Path) : List Path → Prop
  | missing (h : w.isDirectory d = .ok false) : SelectsIn c w d []
  | found {ps : List Path} (h : w.isDirectory d = .ok true) (hps : w.Lists d ".java" ps) :
    SelectsIn c w d (ps.filter (c.ChoosesIn d))

/-- What is selected: what is of the directories, one after the other. -/
def SelectsAll (c : Config) (w : Workspace) (ps : List Path) : Prop :=
  ∃ pss, List.Forall₂ (c.SelectsIn w) c.sources pss ∧ ps = pss.flatten

/-- The Java paths below a directory, if there is one. -/
def javaPaths (w : Workspace) (d : Path) : List Path :=
  match w.isDirectory d, w.findSuffixed d javaSuffix with
  | .ok true, .ok ps => ps
  | _, _ => []

/-- What is selected in a directory. -/
def selected (c : Config) (w : Workspace) (d : Path) : List Path :=
  (javaPaths w d).filter (c.ChoosesIn d)

/-- In a directory that can be listed, what is selected is what is chosen, … -/
theorem selectIn_eq_ok (h : c.Compiled) (hd : w.Listable d) :
    c.selectIn w d = .ok (c.selected w d) ∧ c.SelectsIn w d (c.selected w d) := by
  obtain ⟨b, hb⟩ := hd.answers
  cases b with
  | false =>
    have hnone : c.selected w d = [] := by
      rw [selected, javaPaths, hb]
      rfl
    rw [selectIn, hb, hnone]
    exact ⟨rfl, .missing hb⟩
  | true =>
    obtain ⟨loc, hi⟩ := Workspace.isDirectory_eq_true_iff.1 hb
    have hloc := (Workspace.inspect_eq_ok_iff.1 hi).1
    obtain ⟨ps, hfound⟩ : ∃ ps, w.findSuffixed d javaSuffix = .ok ps :=
      ⟨_, Workspace.findSuffixed_eq_ok javaSuffix hloc (hd.shallow hb)⟩
    have hlists := Workspace.lists_of_findSuffixed hfound
    have hsome : c.selected w d = ps.filter (c.ChoosesIn d) := by
      rw [selected, javaPaths, hb, hfound]
    rw [selectIn, hb, hfound, hsome]
    exact ⟨filterM_eq_ok fun p hp => chosenIn_eq_ok h hlists hp, .found hb hlists⟩

/-- … and so it is in all of them, one after the other. -/
theorem selectSources_eq_ok (h : c.Compiled) (hsources : ∀ d ∈ c.sources, w.Listable d) :
    c.selectSources w = .ok (c.sources.flatMap (c.selected w)) := by
  have hall : c.sources.mapM (c.selectIn w) = .ok (c.sources.map (c.selected w)) := by
    rw [mapM_eq_ok_iff, List.forall₂_map_right_iff, List.forall₂_same]
    exact fun d hd => (selectIn_eq_ok h (hsources d hd)).1
  rw [selectSources, hall, List.flatMap_def]
  rfl

/-- This is all that is to be selected. -/
theorem selects_flatMap (h : c.Compiled) (hsources : ∀ d ∈ c.sources, w.Listable d) :
    c.SelectsAll w (c.sources.flatMap (c.selected w)) := by
  refine ⟨c.sources.map (c.selected w), ?_, List.flatMap_def⟩
  rw [List.forall₂_map_right_iff, List.forall₂_same]
  exact fun d hd => (selectIn_eq_ok h (hsources d hd)).2

/-- Nothing is selected of a directory that is not listed. -/
theorem selectIn_eq_error (hd : ¬w.Listable d) :
    ∃ p, c.selectIn w d = .error (.file (.on .nameTooLong p)) := by
  rw [selectIn]
  cases hanswer : w.isDirectory d with
  | error e =>
    rw [Workspace.isDirectory_eq_error hanswer]
    exact ⟨d, rfl⟩
  | ok b =>
    cases b with
    | false => exact absurd ⟨⟨_, hanswer⟩, fun h => nomatch hanswer.symm.trans h⟩ hd
    | true =>
      cases hfound : w.findSuffixed d javaSuffix with
      | error e =>
        obtain ⟨loc, hi⟩ := Workspace.isDirectory_eq_true_iff.1 hanswer
        obtain ⟨names, rfl⟩ := Workspace.findSuffixed_eq_error (Workspace.inspect_eq_ok_iff.1 hi).1
          hfound
        exact ⟨_, rfl⟩
      | ok ps =>
        exact absurd ⟨⟨_, hanswer⟩, fun _ => Workspace.shallow_of_findSuffixed hfound⟩ hd

/-- A directory that cannot be listed ends the selection. -/
theorem selectSources_eq_error_of_not_listable (h : c.Compiled) (hd : d ∈ c.sources)
    (hnot : ¬w.Listable d) :
    ∃ p, c.selectSources w = .error (.file (.on .nameTooLong p)) := by
  rw [selectSources]
  cases hall : c.sources.mapM (c.selectIn w) with
  | ok pss =>
    obtain ⟨ps, hps⟩ := (mapM_eq_ok hall).1 d hd
    obtain ⟨p, hp⟩ := selectIn_eq_error (c := c) hnot
    cases hp.symm.trans hps
  | error f =>
    obtain ⟨d', -, hd'⟩ := exists_of_mapM_eq_error hall
    by_cases hlist : w.Listable d'
    · cases hd'.symm.trans (selectIn_eq_ok h hlist).1
    · obtain ⟨p, hp⟩ := selectIn_eq_error (c := c) hlist
      cases hd'.symm.trans hp
      exact ⟨p, rfl⟩

/-! ## Patterns more or less -/

/-- Choosing less selects less, in the same order. -/
theorem selected_sublist (h : ∀ name, c'.Chooses name → c.Chooses name) (w : Workspace) (d : Path) :
    (c'.selected w d).Sublist (c.selected w d) := by
  refine List.monotone_filter_right _ fun p hp => ?_
  obtain ⟨name, hname, hchosen⟩ := of_decide_eq_true hp
  exact decide_eq_true ⟨name, hname, h name hchosen⟩

/-- Only whether there is a pattern matters, not where or how often. -/
theorem chooses_congr (hincludes : ∀ p, p ∈ c'.includes ↔ p ∈ c.includes)
    (hexcludes : ∀ p, p ∈ c'.excludes ↔ p ∈ c.excludes) : c'.Chooses name ↔ c.Chooses name := by
  simp only [chooses_iff, List.isEmpty_iff, List.eq_nil_iff_forall_not_mem, hincludes, hexcludes]

/-- What is selected depends on the patterns that there are, not on their order. -/
theorem selected_congr (hincludes : ∀ p, p ∈ c'.includes ↔ p ∈ c.includes)
    (hexcludes : ∀ p, p ∈ c'.excludes ↔ p ∈ c.excludes) (w : Workspace) (d : Path) :
    c'.selected w d = c.selected w d :=
  (selected_sublist (fun _ => (chooses_congr hincludes hexcludes).1) w d).antisymm
    (selected_sublist (fun _ => (chooses_congr hincludes hexcludes).2) w d)

/-- What is selected of a directory does not depend on the others. -/
theorem selected_with_sources (c : Config) (sources : List Path) (w : Workspace) :
    { c with sources }.selected w = c.selected w := by
  funext d
  exact selected_congr (by exact fun _ => .rfl) (by exact fun _ => .rfl) w d

/-- Further excluded patterns, or a first included one, choose fewer classes, … -/
theorem Chooses.of_more_excludes (hincludes : c'.includes = c.includes ∨ c.includes = [])
    (hexcludes : c.excludes ⊆ c'.excludes) (h : c'.Chooses name) : c.Chooses name where
  included := hincludes.elim (fun hsame => hsame ▸ h.included) .inl
  notExcluded := fun ⟨p, hp, hoccurs⟩ => h.notExcluded ⟨p, hexcludes hp, hoccurs⟩

/-- … and further included patterns more of them. -/
theorem Chooses.of_more_includes (hne : c.includes ≠ []) (hincludes : c.includes ⊆ c'.includes)
    (hexcludes : c'.excludes = c.excludes) (h : c.Chooses name) : c'.Chooses name where
  included := by
    obtain ⟨p, hp, hoccurs⟩ := h.included.resolve_left hne
    exact .inr ⟨p, hincludes hp, hoccurs⟩
  notExcluded := hexcludes ▸ h.notExcluded

/-! ## Sources that are selected once -/

/-- No file is found twice in a directory. -/
theorem nodup_javaPaths (w : Workspace) (d : Path) : (javaPaths w d).Nodup := by
  rw [javaPaths]
  split
  · rename_i hfound
    refine (Workspace.lists_of_findSuffixed hfound).ordered.imp fun hlt heq => ?_
    rw [heq] at hlt
    exact List.lt_irrefl _ hlt
  · exact .nil

/-- What is selected of a directory is below it. -/
theorem exists_extend_of_mem (hp : p ∈ c.selected w d) :
    ∃ names, ".." ∉ names ∧ p = d.extend names := by
  have hp := List.mem_of_mem_filter hp
  rw [javaPaths] at hp
  split at hp
  · rename_i hfound
    obtain ⟨folders, stem, ⟨loc, node, -, hnode⟩, rfl⟩ :=
      ((Workspace.lists_of_findSuffixed hfound).mem_iff p).1 hp
    exact ⟨_, fun h => FileTree.not_mem_of_get? hnode (List.mem_append_right _ h), rfl⟩
  · exact absurd hp List.not_mem_nil

/-- Directories from which the same source is selected lie one below the other. -/
theorem covers_of_mem_selected {e : Path} (hd : p ∈ c.selected w d) (he : p ∈ c.selected w e) :
    d.Covers e ∨ e.Covers d := by
  obtain ⟨names, hnames, rfl⟩ := exists_extend_of_mem hd
  obtain ⟨names', hnames', hsame⟩ := exists_extend_of_mem he
  simp only [Path.extend, Path.mk.injEq] at hsame
  obtain ⟨hanchor, hparts⟩ := hsame
  rcases List.append_eq_append_iff.1 hparts with ⟨between, he', hbetween⟩ | ⟨between, hd', hbetween⟩
  · refine .inl ⟨between, fun h => hnames (hbetween ▸ List.mem_append_left _ h), ?_⟩
    rw [Path.extend, ← he', hanchor]
  · refine .inr ⟨between, fun h => hnames' (hbetween ▸ List.mem_append_left _ h), ?_⟩
    rw [Path.extend, ← hd', ← hanchor]

/-- Nor is one selected twice from several, if none of them covers another. -/
theorem nodup_selected (h : c.sources.Pairwise fun d e => ¬d.Covers e ∧ ¬e.Covers d) :
    (c.sources.flatMap (c.selected w)).Nodup := by
  refine List.nodup_flatMap.2 ⟨fun d _ => (nodup_javaPaths w d).filter _, h.imp fun hapart => ?_⟩
  exact List.disjoint_left.2 fun p hd he =>
    (covers_of_mem_selected hd he).elim hapart.1 hapart.2

/-! ## Selecting -/

/-- Selecting by patterns keeps, in order, those of all Java paths below the directories whose
    classes are chosen. Missing directories do not count, and the order and the number of the
    patterns neither. With more excluded patterns, or a first included one, fewer sources are
    selected, and with further included patterns more. No source is selected twice unless a
    directory is another one or lies below it. If the system refuses a directory, for its path
    is too long, so does the selection. -/
theorem selectSources_filters (h : c.Compiled) :
    ((∀ d ∈ c.sources, w.Listable d) → ∃ ps, c.selectSources w = .ok ps ∧ c.SelectsAll w ps ∧
      (∀ before d after, c.sources = before ++ d :: after → w.isDirectory d = .ok false →
        { c with sources := before ++ after }.selectSources w = .ok ps) ∧
      (∀ c' : Config, c'.Compiled → c'.sources = c.sources →
        ∃ ps', c'.selectSources w = .ok ps' ∧
          ((∀ p, p ∈ c'.includes ↔ p ∈ c.includes) → (∀ p, p ∈ c'.excludes ↔ p ∈ c.excludes) →
            ps' = ps) ∧
          (c'.includes = c.includes ∨ c.includes = [] → c.excludes ⊆ c'.excludes →
            ps'.Sublist ps) ∧
          (c.includes ≠ [] → c.includes ⊆ c'.includes → c'.excludes = c.excludes →
            ps.Sublist ps')) ∧
      (c.sources.Pairwise (fun d e => ¬d.Covers e ∧ ¬e.Covers d) → ps.Nodup)) ∧
    ((∃ d ∈ c.sources, ¬w.Listable d) →
      ∃ p, c.selectSources w = .error (.file (.on .nameTooLong p))) := by
  refine ⟨fun hlist => ⟨_, selectSources_eq_ok h hlist, selects_flatMap h hlist,
    fun before d after hsources hmissing => ?_, fun c' h' hsources => ?_, nodup_selected⟩,
    fun ⟨d, hd, hnot⟩ => selectSources_eq_error_of_not_listable h hd hnot⟩
  · have hnone : c.selected w d = [] := by
      rw [selected, javaPaths, hmissing]
      rfl
    have hothers : ∀ d ∈ before ++ after, w.Listable d := fun d' hd' => by
      refine hlist d' ?_
      rw [hsources]
      exact List.mem_append.2 ((List.mem_append.1 hd').imp_right (List.mem_cons_of_mem d))
    have hrest : { c with sources := before ++ after }.selectSources w =
        .ok ((before ++ after).flatMap ({ c with sources := before ++ after }.selected w)) :=
      selectSources_eq_ok h hothers
    rw [hrest, selected_with_sources, hsources, List.flatMap_append, List.flatMap_append,
      List.flatMap_cons, hnone, List.nil_append]
  · refine ⟨_, selectSources_eq_ok h' (hsources ▸ hlist), fun hincludes hexcludes => ?_,
      fun hincludes hexcludes => ?_, fun hne hincludes hexcludes => ?_⟩
    all_goals rw [hsources]
    · rw [funext (selected_congr hincludes hexcludes w)]
    · exact List.Sublist.flatMap_right _ fun d _ =>
        selected_sublist (fun _ => .of_more_excludes hincludes hexcludes) w d
    · exact List.Sublist.flatMap_right _ fun d _ =>
        selected_sublist (fun _ => .of_more_includes hne hincludes hexcludes) w d

/-- Sources in a package and in a directory whose name only looks like another package. -/
def sampleSources : Workspace where
  files := [["w"], ["w", "src"], ["w", "src", "a"], ["w", "src", "a.b"]].foldl
      (fun (t : FileTree) folder => t.put folder .directory) FileTree.empty
    |>.put ["w", "src", "a", "C.java"] (.file .empty)
    |>.put ["w", "src", "a", "D.java"] (.file .empty)
    |>.put ["w", "src", "a.b", "C.java"] (.file .empty)
  here := ["w"]
  home := []

/-- A pattern for classes with this name. -/
def samplePattern (name : String) : ClassPattern :=
  .compiled ((Pattern.ofString ("\\." ++ name ++ "$") false).toOption.getD ⟨"", .empty⟩)

/-- The sources in a directory and in one that is missing, without some classes. -/
def sampleSelection (excludes : List ClassPattern) : Config where
  sources := [⟨.relative, ["src"]⟩, ⟨.relative, ["lib"]⟩]
  excludes

theorem listable_sampleSources :
    ∀ d ∈ (sampleSelection []).sources, sampleSources.Listable d := by
  have hanswers : ∀ d ∈ (sampleSelection []).sources,
      (∃ b, sampleSources.isDirectory d = .ok b) ∧
      ((∃ b, sampleSources.isDirectory d = .ok b ∧ b = false) ∨
        ∃ ps, sampleSources.findSuffixed d javaSuffix = .ok ps) := by
    decide +kernel
  refine fun d hd => ⟨(hanswers d hd).1, fun hdirectory => ?_⟩
  rcases (hanswers d hd).2 with ⟨b, hb, rfl⟩ | ⟨ps, hps⟩
  · cases hb.symm.trans hdirectory
  · exact Workspace.shallow_of_findSuffixed hps

/-- Sources are in the order of their names, and fewer of them are left by a pattern. -/
theorem selectSources_sampleSources :
    (sampleSelection []).Compiled ∧ (sampleSelection [samplePattern "D"]).Compiled ∧
    (∀ d ∈ (sampleSelection []).sources, sampleSources.Listable d) ∧
    ((sampleSelection []).selectSources sampleSources).toOption.map (·.map Path.toString) =
      some ["src/a/C.java", "src/a/D.java", "src/a.b/C.java"] ∧
    ((sampleSelection [samplePattern "D"]).selectSources sampleSources).toOption.map
      (·.map Path.toString) = some ["src/a/C.java", "src/a.b/C.java"] ∧
    ∃ ps ps', (sampleSelection []).selectSources sampleSources = .ok ps ∧
      (sampleSelection [samplePattern "D"]).selectSources sampleSources = .ok ps' ∧
      ps'.Sublist ps ∧ ps.Nodup := by
  have hcompiled : (sampleSelection []).Compiled := nofun
  have hcompiled' : (sampleSelection [samplePattern "D"]).Compiled := fun p hp =>
    List.mem_singleton.1 hp ▸ trivial
  have hapart : (sampleSelection []).sources.Pairwise fun d e => ¬d.Covers e ∧ ¬e.Covers d := by
    refine List.pairwise_pair.2 ⟨fun ⟨names, _, h⟩ => ?_, fun ⟨names, _, h⟩ => ?_⟩
    · simp [Path.extend] at h
    · simp [Path.extend] at h
  obtain ⟨ps, hps, -, -, hothers, hnodup⟩ :=
    (selectSources_filters hcompiled).1 listable_sampleSources
  obtain ⟨ps', hps', -, hfewer, -⟩ := hothers (sampleSelection [samplePattern "D"]) hcompiled' rfl
  exact ⟨hcompiled, hcompiled', listable_sampleSources, by decide +kernel, by decide +kernel,
    ps, ps', hps, hps', hfewer (.inl rfl) (List.nil_subset _), hnodup hapart⟩

/-- A directory with a name that is too long. -/
def longSource : Config where
  sources := [⟨.relative, [String.ofList (List.replicate 256 'a')]⟩]

/-- A directory with a name that is too long cannot be there, but it is not left out. -/
theorem not_forall_selectSources_ok : ¬∀ (c : Config) (w : Workspace), c.Compiled →
    ∃ ps, c.selectSources w = .ok ps ∧ c.SelectsAll w ps := by
  intro h
  have hrefused : (longSource.selectSources (.holding [])).toOption = none := by decide +kernel
  obtain ⟨ps, hps, -⟩ := h longSource (.holding []) nofun
  rw [hps] at hrefused
  cases hrefused

end Config

end Checkstyle

end JavaBuild
