import JavaBuild.Checkstyle.Command
import JavaBuild.Proofs.Artifact.Spec
import JavaBuild.Proofs.Result

/-!
# What a command lacks

There is a command if the rules and a class path are set. The error for want of a class path
names the artifacts that should be on it, and these are read from specs, one of which ends in
the version. So it is told only if the version can be the end of a spec (`FitsSpec`). If it
cannot, the error is that of the spec (`Config.command_tells`).
-/

namespace JavaBuild.Checkstyle

open Artifact (HasParts IsWritten ofSpec)

variable {version : String} {parts rest : List String} {a : Artifact} {c : Config}
  {sources : List Path}

/-! ## Versions in specs -/

/-- The parts of a version, between its colons. Blanks at its end do not count. -/
structure HasVersionParts (version : String) (parts : List String) : Prop where
  nonempty : parts ≠ []
  joined : ∃ after, version.toList = (":".intercalate parts).toList ++ after ∧
    ∀ c ∈ after, Text.isBlank c
  stop : ∀ c ∈ (":".intercalate parts).toList.getLast?, Text.isBlank c = false
  plain : ∀ part ∈ parts, ':' ∉ part.toList

/-- A version can be the end of a spec: blanks at its end apart, it is not empty, and if there
    is a colon in it, there is one only, with something on both sides. -/
def FitsSpec (version : String) : Prop :=
  ∃ parts, HasVersionParts version parts ∧ parts.length ∈ [1, 2] ∧ "" ∉ parts

theorem exists_hasVersionParts (version : String) : ∃ parts, HasVersionParts version parts := by
  obtain ⟨blanks, rest, hversion, hblanks, hrest⟩ :=
    Text.exists_span Text.isBlank version.toList.reverse
  refine ⟨(rest.reverse.splitOn ':').map String.ofList, ?_, ⟨blanks.reverse, ?_, ?_⟩, ?_,
    fun part => Text.notMem_of_mem_splitOn⟩
  · simp [List.splitOn_ne_nil]
  · rw [Text.intercalate_splitOn rfl, String.toList_ofList, ← List.reverse_append, ← hversion,
      List.reverse_reverse]
  · simpa using hblanks
  · rw [Text.intercalate_splitOn rfl, String.toList_ofList, List.getLast?_reverse]
    exact hrest

/-- The parts of the spec of Checkstyle itself in front of the version. -/
def frontParts : List String := ["checkstyle", "checkstyle", "jar"]

/-- The spec of a version of Checkstyle itself. -/
def ownSpec (version : String) : String := "checkstyle:checkstyle:jar:" ++ version

/-- What is in front of the version starts and ends with characters that are not blank. The
    text between them stands behind the quantifier so that it is no literal where this is used:
    the kernel takes long to decode one. -/
theorem exists_ownSpec_eq : ∃ front : String, ∀ version,
    ownSpec version = "c" ++ front ++ ":" ++ version := by
  have hfront : "checkstyle:checkstyle:jar:" = "c" ++ "heckstyle:checkstyle:jar" ++ ":" := by
    decide +kernel
  exact ⟨"heckstyle:checkstyle:jar", fun version => congrArg (· ++ version) hfront⟩

/-- The parts of the version are the last ones of the spec. -/
theorem HasVersionParts.hasParts (h : HasVersionParts version parts) :
    HasParts (ownSpec version) (frontParts ++ parts) := by
  obtain ⟨after, hversion, hafter⟩ := h.joined
  have hspec : ":".intercalate (frontParts ++ parts) = ownSpec (":".intercalate parts) := by
    rw [String.intercalate_append_of_ne_nil (by simp [frontParts]) h.nonempty]
    rfl
  obtain ⟨front, hfront⟩ := exists_ownSpec_eq
  have hchars (last : String) :
      (ownSpec last).toList = 'c' :: (front.toList ++ ':' :: last.toList) := by
    simp [hfront]
  refine ⟨by simp [frontParts], ⟨⟨[], after, ?_, nofun, hafter⟩, ?_, ?_⟩, ?_⟩
  · simp [hspec, hchars, hversion]
  · rw [hspec, hchars]
    rintro c ⟨⟩
    decide
  · -- The last character is that of the version, or the colon in front of it.
    rw [hspec, hchars, List.append_cons, ← List.cons_append]
    by_cases hempty : (":".intercalate parts).toList = []
    · rw [hempty, List.append_nil, List.getLast?_cons, List.getLast?_concat]
      rintro c ⟨⟩
      decide
    · rw [List.getLast?_append_of_ne_nil _ hempty]
      exact h.stop
  · exact List.forall_mem_append.2 ⟨by decide, h.plain⟩

/-- The spec of Checkstyle itself is read if the version can be its end. -/
theorem exists_ofSpec_ownSpec_iff : (∃ a, ofSpec (ownSpec version) = .ok a) ↔ FitsSpec version := by
  simp only [Artifact.ofSpec_eq_ok_iff]
  -- Three to five parts make a spec, and three of them are in front of the version.
  constructor
  · rintro ⟨a, parts, hparts, hempty, hwritten⟩
    obtain ⟨last, hlast⟩ := exists_hasVersionParts version
    obtain rfl := hlast.hasParts.unique hparts
    refine ⟨last, hlast, ?_, fun h => hempty (List.mem_append_right _ h)⟩
    have hlength := hwritten.length_mem
    simp only [frontParts, List.length_append, List.length_cons, List.length_nil, List.mem_cons,
      List.not_mem_nil, or_false] at hlength ⊢
    have := List.length_pos_of_ne_nil hlast.nonempty
    omega
  · rintro ⟨parts, hparts, hlength, hempty⟩
    have hlength' : (frontParts ++ parts).length ∈ [3, 4, 5] := by
      simp only [frontParts, List.length_append, List.length_cons, List.length_nil, List.mem_cons,
        List.not_mem_nil, or_false] at hlength ⊢
      omega
    obtain ⟨a, ha⟩ := Artifact.exists_isWritten hlength'
    refine ⟨a, _, hparts.hasParts, ?_, ha⟩
    exact fun h => (List.mem_append.1 h).elim (by decide) hempty

/-- The id of an artifact is the second part of its spec. -/
theorem id_of_isWritten {group id : String} (h : a.IsWritten (group :: id :: rest)) :
    a.id = id := by
  rcases h with h | ⟨-, -, h⟩
  · simp only [Artifact.specFields, List.cons_append, List.cons.injEq] at h
    exact h.2.1.symm
  · simp only [Artifact.providerFields, List.cons.injEq] at h
    exact h.2.1.symm

theorem id_of_ofSpec_ownSpec (h : ofSpec (ownSpec version) = .ok a) : a.id = "checkstyle" := by
  obtain ⟨parts, hparts, -, hwritten⟩ := Artifact.ofSpec_eq_ok_iff.1 h
  obtain ⟨last, hlast⟩ := exists_hasVersionParts version
  obtain rfl := hlast.hasParts.unique hparts
  exact id_of_isWritten hwritten

/-! ## The artifacts that are needed -/

/-- The artifacts that are needed besides Checkstyle itself, whatever its version is. -/
def libraries : List Artifact :=
  [⟨"antlr", "antlr", "2.7.6", "jar", none⟩,
    ⟨"com.google.collections", "google-collections", "0.9", "jar", none⟩,
    ⟨"commons-beanutils", "commons-beanutils-core", "1.7.0", "jar", none⟩,
    ⟨"commons-cli", "commons-cli", "1.0", "jar", none⟩,
    ⟨"commons-logging", "commons-logging", "1.0.3", "jar", none⟩]

theorem dependencySpecs_eq (version : String) :
    dependencySpecs version = ownSpec version :: libraries.map Artifact.spec := by
  have hown : s!"checkstyle:checkstyle:jar:{version}" = ownSpec version := rfl
  have hlibraries : libraries.map Artifact.spec = (dependencySpecs version).tail := by
    rw [dependencySpecs, List.tail_cons]
    decide +kernel
  rw [hlibraries, ← hown]
  rfl

theorem dependencies_eq (version : String) :
    dependencies version = (ofSpec (ownSpec version)).map (· :: libraries) := by
  have hlibraries : (libraries.map Artifact.spec).mapM ofSpec = .ok libraries := by
    have hregular : ∀ a ∈ libraries, a.IsRegular := by decide +kernel
    rw [List.mapM_map, mapM_eq_ok_iff, List.forall₂_same]
    intro a ha
    rw [Function.comp_apply, (hregular a ha).ofSpec_spec_eq]
  rw [dependencies, dependencySpecs_eq, List.mapM_cons, hlibraries]
  cases ofSpec (ownSpec version) <;> rfl

/-- The ids of the artifacts that are needed. -/
def neededIds : List String := "checkstyle" :: libraries.map (·.id)

/-- The ids can be told of a version that can be the end of a spec. -/
theorem withoutClasspath_of_fitsSpec (h : FitsSpec version) :
    withoutClasspath version = .checkstyle (.noClasspath neededIds) := by
  obtain ⟨a, ha⟩ := exists_ofSpec_ownSpec_iff.2 h
  have hneeded : dependencies version = .ok (a :: libraries) := by
    rw [dependencies_eq, ha]
    rfl
  rw [withoutClasspath, hneeded, neededIds, ← id_of_ofSpec_ownSpec ha]
  rfl

/-- Of another version, it is told that the spec is malformed. -/
theorem withoutClasspath_of_not_fitsSpec (h : ¬FitsSpec version) :
    withoutClasspath version = .entry (.malformedSpec (ownSpec version)) := by
  have hmalformed : ofSpec (ownSpec version) = .error (.malformedSpec (ownSpec version)) := by
    cases hread : Artifact.ofSpec? (ownSpec version) with
    | some a => exact absurd (exists_ofSpec_ownSpec_iff.1 ⟨a, by rw [ofSpec, hread]⟩) h
    | none => rw [ofSpec, hread]
  have hneeded : dependencies version = .error (.malformedSpec (ownSpec version)) := by
    rw [dependencies_eq, hmalformed]
    rfl
  rw [withoutClasspath, hneeded]

/-! ## Commands -/

/-- There is a command if the rules and a class path are set. That the rules are missing is told
    whatever the version is. If only the class path is missing, the artifacts that should be on
    it are told, provided that the version can be the end of a spec. If it cannot, the error is
    that of a malformed spec instead, which is none of Checkstyle. -/
theorem Config.command_tells (c : Config) (sources : List Path) :
    ((∃ command, c.command sources = .ok command) ↔ c.rules ≠ none ∧ c.classpath ≠ []) ∧
    ((∃ e, c.command sources = .error (.checkstyle e)) ↔
      c.rules = none ∨ (c.classpath = [] ∧ FitsSpec c.version)) ∧
    (c.rules = none → c.command sources = .error (.checkstyle .noRules)) ∧
    (c.rules ≠ none → c.classpath = [] →
      (FitsSpec c.version → c.command sources = .error (.checkstyle (.noClasspath neededIds))) ∧
      (¬FitsSpec c.version →
        c.command sources = .error (.entry (.malformedSpec (ownSpec c.version))))) := by
  cases hrules : c.rules with
  | none =>
    have herror : c.command sources = .error (.checkstyle .noRules) := by
      rw [command, hrules]
    simp [herror]
  | some rules =>
    by_cases hclasspath : c.classpath = []
    · have herror : c.command sources = .error (withoutClasspath c.version) := by
        simp [command, hrules, hclasspath]
      by_cases hfits : FitsSpec c.version
      · rw [withoutClasspath_of_fitsSpec hfits] at herror
        simp [herror, hclasspath, hfits]
      · rw [withoutClasspath_of_not_fitsSpec hfits] at herror
        simp [herror, hclasspath, hfits]
    · have hok : ∃ command, c.command sources = .ok command := by
        simp [command, hrules, hclasspath]
      obtain ⟨command, hcommand⟩ := hok
      simp [hcommand, hclasspath]

/-- A configuration without a class path. -/
def withoutJars (version : String) : Config := { rules := some (.ofString "rules.xml"), version }

theorem fitsSpec_withClassifier : FitsSpec "all:5.0\n" :=
  ⟨["all", "5.0"], ⟨by simp, ⟨['\n'], by decide, by decide⟩, by decide, by decide⟩, by decide,
    by decide⟩

theorem not_fitsSpec_empty : ¬FitsSpec "" := by
  have hrefused : Artifact.ofSpec? (ownSpec "") = none := by decide +kernel
  rw [← exists_ofSpec_ownSpec_iff, ofSpec, hrefused]
  simp

/-- What is missing is told for a version with a classifier, and for none without rules. -/
theorem Config.command_tells_withoutJars :
    ((withoutJars "all:5.0\n").rules ≠ none ∧ (withoutJars "all:5.0\n").classpath = [] ∧
      (withoutJars "all:5.0\n").command [] = .error (.checkstyle (.noClasspath neededIds))) ∧
    ((withoutJars "").command [] = .error (.entry (.malformedSpec (ownSpec "")))) ∧
    ({ withoutJars "" with rules := none } : Config).command [] =
      .error (.checkstyle .noRules) := by
  have hrules (version : String) : (withoutJars version).rules ≠ none := Option.some_ne_none _
  obtain ⟨-, -, -, hclasspath⟩ := Config.command_tells (withoutJars "all:5.0\n") []
  obtain ⟨-, -, -, hempty⟩ := Config.command_tells (withoutJars "") []
  obtain ⟨-, -, hnone, -⟩ := Config.command_tells { withoutJars "" with rules := none } []
  exact ⟨⟨hrules _, rfl, (hclasspath (hrules _) rfl).1 fitsSpec_withClassifier⟩,
    (hempty (hrules _) rfl).2 not_fitsSpec_empty, hnone rfl⟩

/-- That there is no class path is not told for an empty version. -/
theorem Config.not_forall_command_told : ¬∀ (c : Config) (sources : List Path),
    c.rules = none ∨ c.classpath = [] → ∃ e, c.command sources = .error (.checkstyle e) := by
  intro h
  obtain ⟨e, he⟩ := h (withoutJars "") [] (.inr rfl)
  have hspec : (withoutJars "").command [] = .error (withoutClasspath "") := rfl
  rw [hspec, withoutClasspath_of_not_fitsSpec not_fitsSpec_empty] at he
  cases he

end JavaBuild.Checkstyle
