import JavaBuild.Proofs.Pom.Artifacts
import JavaBuild.Proofs.Pom.Encoding
import Mathlib.Data.List.Nodup

/-!
# The order of declarations

Dependencies are declared by elements in the Maven namespace or in none (`declarations`). Each
of them is read once, and each kind in the order of the document, but those in the namespace
before the others (`MovesMavenFirst`). So the dependencies and the artifacts of a project are in
the order in which they are declared only if none is declared in the Maven namespace behind one
in no namespace (`declaredBy_readProject`).
-/

namespace JavaBuild.Pom

open Xml (Element)

variable {p : PomProject} {xs : List Element} {x : Element} {base : String}

/-! ## Elements in both namespaces -/

/-- An element is in the Maven namespace. -/
def InMaven (x : Element) : Prop := x.name.space = some mavenSpace

instance : DecidablePred InMaven := fun _ => inferInstanceAs (Decidable (_ = _))

instance : DecidablePred IsSpace := fun _ => inferInstanceAs (Decidable (_ ∨ _))

/-- No element in the Maven namespace is behind one that is not. -/
def IsMavenFirst (xs : List Element) : Prop := xs.Pairwise fun x y => InMaven y → InMaven x

instance : DecidablePred IsMavenFirst := fun xs => inferInstanceAs (Decidable (xs.Pairwise _))

/-- The elements of a list in another order: those in the Maven namespace are first, and those
    of each namespace in their order. -/
structure MovesMavenFirst (xs ys : List Element) : Prop where
  perm : ys.Perm xs
  order : ∀ space, ys.filter (·.name.space = space) = xs.filter (·.name.space = space)
  first : IsMavenFirst ys

/-- Elements with those in the Maven namespace moved before the others. -/
def mavenFirst (xs : List Element) : List Element :=
  xs.filter InMaven ++ xs.filter (¬InMaven ·)

theorem isMavenFirst_mavenFirst (xs : List Element) : IsMavenFirst (mavenFirst xs) := by
  have hin : ∀ x ∈ xs.filter InMaven, InMaven x := fun x hx =>
    of_decide_eq_true (List.mem_filter.1 hx).2
  have hout : ∀ y ∈ xs.filter (¬InMaven ·), ¬InMaven y := fun y hy =>
    of_decide_eq_true (List.mem_filter.1 hy).2
  exact List.pairwise_append.2
    ⟨List.pairwise_of_forall_mem_list fun x hx _ _ _ => hin x hx,
      List.pairwise_of_forall_mem_list fun _ _ y hy hmaven => absurd hmaven (hout y hy),
      fun x hx _ _ _ => hin x hx⟩

/-- Elements that are in this order already stay where they are. -/
theorem IsMavenFirst.mavenFirst_eq (h : IsMavenFirst xs) : mavenFirst xs = xs := by
  induction xs with
  | nil => rfl
  | cons x xs ih =>
    obtain ⟨hx, hxs⟩ := List.pairwise_cons.1 h
    by_cases hmaven : InMaven x
    · rw [mavenFirst, List.filter_cons_of_pos (by simpa using hmaven),
        List.filter_cons_of_neg (by simpa using hmaven), List.cons_append]
      exact congrArg (x :: ·) (ih hxs)
    · -- behind an element in no namespace there is none in the Maven namespace
      have hnone : ∀ y ∈ x :: xs, ¬InMaven y :=
        List.forall_mem_cons.2 ⟨hmaven, fun y hy hin => hmaven (hx y hy hin)⟩
      rw [mavenFirst, List.filter_eq_nil_iff.2 (by simpa using hnone),
        List.filter_eq_self.2 (by simpa using hnone), List.nil_append]

/-- Elements of one namespace stay in their order. -/
theorem filter_space_mavenFirst (xs : List Element) (space : Option String) :
    (mavenFirst xs).filter (·.name.space = space) = xs.filter (·.name.space = space) := by
  -- Of one namespace, nothing is behind an element that it has to be moved before.
  have hswap : (mavenFirst xs).filter (·.name.space = space) =
      mavenFirst (xs.filter (·.name.space = space)) := by
    rw [mavenFirst, List.filter_append, mavenFirst]
    exact congrArg₂ _ (List.filter_comm ..) (List.filter_comm ..)
  have hspace : ∀ x ∈ xs.filter (·.name.space = space), x.name.space = space := fun x hx =>
    of_decide_eq_true (List.mem_filter.1 hx).2
  have hone : IsMavenFirst (xs.filter (·.name.space = space)) :=
    List.pairwise_of_forall_mem_list fun x hx y hy hmaven =>
      (hspace x hx).trans ((hspace y hy).symm.trans hmaven)
  rw [hswap, hone.mavenFirst_eq]

theorem movesMavenFirst (xs : List Element) : MovesMavenFirst xs (mavenFirst xs) where
  perm := by simpa [mavenFirst] using List.filter_append_perm (fun x => decide (InMaven x)) xs
  order := filter_space_mavenFirst xs
  first := isMavenFirst_mavenFirst xs

/-! ## Declarations -/

/-- The children of a name in the namespaces of project object models, in the order of the
    document. -/
def declared (e : Element) (base : String) : List Element :=
  (childrenOf e base).filter (IsSpace ·.name.space)

/-- The elements that declare the dependencies of a project, in the order of the document. -/
def declarations (root : Element) : List Element :=
  ((find? root "dependencies").map fun e => declared e "dependency").getD []

theorem name_eq_mavenName_iff :
    x.name = mavenName base ↔ InMaven x ∧ IsSpace x.name.space ∧ x.name.base = base := by
  obtain ⟨⟨space, base'⟩, as, content⟩ := x
  simp only [mavenName, Xml.Name.mk.injEq, InMaven, IsSpace]
  tauto

theorem name_eq_plain_iff :
    x.name = .plain base ↔ ¬InMaven x ∧ IsSpace x.name.space ∧ x.name.base = base := by
  obtain ⟨⟨space, base'⟩, as, content⟩ := x
  simp only [Xml.Name.plain, Xml.Name.mk.injEq, InMaven, IsSpace]
  constructor
  · rintro ⟨rfl, rfl⟩
    exact ⟨(Option.some_ne_none mavenSpace).symm, .inl rfl, rfl⟩
  · tauto

theorem findAll_eq_mavenFirst (e : Element) (base : String) :
    findAll e base = mavenFirst (declared e base) := by
  simp only [findAll, Element.childrenNamed, mavenFirst, declared, childrenOf, List.filter_filter]
  refine congrArg₂ _ (List.filter_congr fun x _ => ?_) (List.filter_congr fun x _ => ?_)
  · rw [Bool.eq_iff_iff, beq_iff_eq, name_eq_mavenName_iff]
    simp only [Bool.and_eq_true, decide_eq_true_iff, beq_iff_eq]
  · rw [Bool.eq_iff_iff, beq_iff_eq, name_eq_plain_iff]
    simp only [Bool.and_eq_true, decide_eq_true_iff, beq_iff_eq]

theorem dependencies_readProject (root : Element) :
    (readProject root).dependencies = (mavenFirst (declarations root)).map readDependency := by
  rw [readProject, declarations]
  cases find? root "dependencies" with
  | none => rfl
  | some e => simp only [Option.map_some, Option.getD_some, findAll_eq_mavenFirst]

/-- The artifact that is told of a dependency, if it is asked for and stands for one. -/
def artifactTold (p : PomProject) (selection : Selection) (d : PomDependency) :
    Option PomArtifact :=
  if selection.AsksFor d then (artifactOf (allProperties p) d).toOption else none

/-- The artifacts are told in the order of the dependencies. -/
theorem artifacts_eq_filterMap (p : PomProject) (selection : Selection) :
    (artifacts p selection).1 = p.dependencies.filterMap (artifactTold p selection) := by
  rw [artifacts, List.filterMap_map, List.filterMap_filter]
  refine List.filterMap_congr fun d _ => ?_
  simp only [artifactTold, Selection.asksFor_iff, Function.comp_apply]
  split
  · cases artifactOf (allProperties p) d <;> rfl
  · rfl

/-- A project has its dependencies from some elements, one from each in their order, and so are
    the artifacts told of them, whichever are asked for. -/
structure DeclaredBy (p : PomProject) (xs : List Element) : Prop where
  dependencies : p.dependencies = xs.map readDependency
  artifacts : ∀ selection, ∃ warnings,
    Tells p selection (xs.filterMap fun x => artifactTold p selection (readDependency x)) warnings

theorem declaredBy_of_dependencies (h : p.dependencies = xs.map readDependency) :
    DeclaredBy p xs where
  dependencies := h
  artifacts selection := by
    refine ⟨(artifacts p selection).2, tells_iff.2 (Prod.ext ?_ rfl)⟩
    rw [artifacts_eq_filterMap, h, List.filterMap_map]
    rfl

/-- Different dependencies show which elements have been moved. -/
theorem isMavenFirst_of_map_eq (hnodup : (xs.map readDependency).Nodup)
    (h : (mavenFirst xs).map readDependency = xs.map readDependency) : IsMavenFirst xs := by
  have hmoves := movesMavenFirst xs
  -- No two elements are read alike, so at each place is the same element as before.
  have hsame : mavenFirst xs = xs := by
    refine List.ext_getElem hmoves.perm.length_eq fun i hi hi' => ?_
    have hf := congrArg (·[i]?) h
    simp only [List.getElem?_map, List.getElem?_eq_getElem hi, List.getElem?_eq_getElem hi',
      Option.map_some, Option.some.injEq] at hf
    exact List.inj_on_of_nodup_map hnodup (hmoves.perm.subset (List.getElem_mem hi))
      (List.getElem_mem hi') hf
  exact hsame ▸ hmoves.first

/-- The dependencies of a project and the artifacts told of them are those of the declaring
    elements, none missing and none repeated, the elements of each namespace in the order of the
    document, and those in the Maven namespace before those in none. So they are in the order of
    declaration if no element in the Maven namespace is declared behind one in none, and only then
    if different dependencies are declared. -/
theorem declaredBy_readProject (root : Element) :
    (∀ {file : Path} {s : Session} {bytes : ByteArray}, s.workspace.readFile file = .ok bytes →
      Xml.readDocument bytes = .ok root →
      (loadProject file).runIn s = (.ok (readProject root), s)) ∧
    (∃ xs, MovesMavenFirst (declarations root) xs ∧ DeclaredBy (readProject root) xs) ∧
    (IsMavenFirst (declarations root) → DeclaredBy (readProject root) (declarations root)) ∧
    (((declarations root).map readDependency).Nodup →
      DeclaredBy (readProject root) (declarations root) → IsMavenFirst (declarations root)) := by
  have hmoved : DeclaredBy (readProject root) (mavenFirst (declarations root)) :=
    declaredBy_of_dependencies (dependencies_readProject root)
  refine ⟨loadProject_of_readFile, ⟨_, movesMavenFirst _, hmoved⟩, fun h => ?_,
    fun hnodup h => ?_⟩
  · exact h.mavenFirst_eq ▸ hmoved
  · exact isMavenFirst_of_map_eq hnodup
      ((dependencies_readProject root).symm.trans h.dependencies)

/-- A document that declares a dependency in the Maven namespace before one in none, in
    pieces. -/
def mixedPieces : List String :=
  ["<project xmlns:m=\"http://maven.apache", ".org/POM/4.0.0\"><dependencies>",
    "<m:dependency><artifactId>b</artifactId>", "<version>2</version></m:dependency>",
    "<dependency><artifactId>a</artifactId>", "<version>1</version></dependency>",
    "</dependencies></project>"]

/-- The document in a file. -/
def mixedSession : Session := ⟨.holding [("pom.xml", String.join mixedPieces)], [], [], []⟩

theorem declaredBy_readProject_mixed : ∃ bytes root,
    mixedSession.workspace.readFile (.ofString "pom.xml") = .ok bytes ∧
    Xml.readDocument bytes = .ok root ∧
    (loadProject (.ofString "pom.xml")).runIn mixedSession =
      (.ok (readProject root), mixedSession) ∧
    (declarations root).map (·.name) = [mavenName "dependency", .plain "dependency"] ∧
    ((declarations root).map readDependency).Nodup ∧
    DeclaredBy (readProject root) (declarations root) ∧
    IsMavenFirst (declarations root) := by
  obtain ⟨root, hbody, hnames, hnodup, hfirst⟩ : ∃ root,
      Xml.readBody .complete false (mixedPieces.flatMap String.toList) = .ok root ∧
        (declarations root).map (·.name) = [mavenName "dependency", .plain "dependency"] ∧
        ((declarations root).map readDependency).Nodup ∧ IsMavenFirst (declarations root) := by
    decide +kernel
  have hread : mixedSession.workspace.readFile (.ofString "pom.xml") =
      .ok (String.join mixedPieces).toUTF8 := rfl
  have hroot := Xml.readDocument_join rfl (by decide) (by decide) (by decide) hbody
  obtain ⟨hloads, -, hdeclared, hfirst'⟩ := declaredBy_readProject root
  exact ⟨_, root, hread, hroot, hloads hread hroot, hnames, hnodup, hdeclared hfirst,
    hfirst' hnodup (hdeclared hfirst)⟩

/-- The declaration of a dependency with an id. -/
def declaration (name : Xml.Name) (id : String) : Element :=
  ⟨name, [], [(field ("artifactId", id)).node]⟩

/-- Dependencies that are declared first in no namespace and then in the Maven namespace. -/
def plainFirst : Element :=
  ⟨.plain "dependencies", [],
    [(declaration (.plain "dependency") "a").node, (declaration (mavenName "dependency") "b").node]⟩

/-- The dependencies of a project need not be in the order in which they are declared. -/
theorem not_forall_declaredBy : ¬∀ root, DeclaredBy (readProject root) (declarations root) := by
  intro h
  have hids := congrArg (List.map (·.artifactId))
    (h ⟨.plain "project", [], [plainFirst.node]⟩).dependencies
  have hread : (readProject ⟨.plain "project", [], [plainFirst.node]⟩).dependencies.map
      (·.artifactId) = ["b", "a"] := by decide +kernel
  have hdeclared : ((declarations ⟨.plain "project", [], [plainFirst.node]⟩).map
      readDependency).map (·.artifactId) = ["a", "b"] := by decide +kernel
  rw [hread, hdeclared] at hids
  exact absurd hids (by decide)

end JavaBuild.Pom
