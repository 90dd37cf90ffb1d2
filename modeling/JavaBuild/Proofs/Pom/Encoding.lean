import JavaBuild.Proofs.Pom.Reading
import Mathlib.Data.List.Forall2

/-!
# Documents that encode a project

A project can be written down in many ways (`Encodes`): its group and its version in the
document or only in its parent, a packaging or a scope that is the default or not at all,
children in any order, among others that mean nothing, blanks around texts, and all in the
Maven namespace or all in none. Whichever way it is written, it is read again as it was
(`loadProject_of_encodes`), as children are looked for by their names directly in the element
that they belong to (`findAll_eq`).
-/

namespace JavaBuild.Pom

open List (Forall₂)
open Xml (Element)

variable {space : Option String} {e x root : Element} {base text default : String}
  {value : Option String} {P : Element → Prop} {d : PomDependency} {p : PomProject}
  {properties : Properties}

/-! ## Texts -/

/-- A text that is not empty, and has no blank at either end. -/
@[mk_iff]
structure Solid (text : String) : Prop where
  nonempty : text ≠ ""
  first : ∀ c ∈ text.toList.head?, Text.isBlank c = false
  last : ∀ c ∈ text.toList.getLast?, Text.isBlank c = false

instance (text : String) : Decidable (Solid text) := decidable_of_iff' _ (solid_iff text)

/-- A text is written in an element, with blanks around it. -/
structure Writes (text : String) (x : Element) : Prop where
  solid : Solid text
  around : ∃ before after, x.leadingText.toList = before ++ (text.toList ++ after) ∧
    (∀ c ∈ before, Text.isBlank c) ∧ ∀ c ∈ after, Text.isBlank c

/-- What is written in an element is read. -/
theorem Writes.trimmed_eq (h : Writes text x) : Text.trimmed x.leadingText = text := by
  obtain ⟨before, after, htext, hbefore, hafter⟩ := h.around
  have hne : text.toList ≠ [] := fun hnil => h.solid.nonempty (String.toList_inj.1 hnil)
  rw [Text.trimmed, htext, Text.trim_append hne h.solid.first h.solid.last hbefore hafter,
    String.ofList_toList]

/-- A text is written in an element exactly if it is read, and there are no blanks around it. -/
theorem writes_iff : Writes text x ↔ Solid text ∧ Text.trimmed x.leadingText = text := by
  refine ⟨fun h => ⟨h.solid, h.trimmed_eq⟩, fun ⟨hsolid, htext⟩ => ⟨hsolid, ?_⟩⟩
  obtain ⟨before, after, happend, hblank⟩ := Text.exists_eq_append_trim x.leadingText.toList
  refine ⟨before, after, ?_, hblank⟩
  rw [← htext, Text.trimmed, String.toList_ofList]
  exact happend

instance (text : String) : DecidablePred (Writes text) := fun _ => decidable_of_iff' _ writes_iff

/-- The letters of "true", each of them small or capital. -/
def SpellsTrue (s : String) : Prop :=
  Forall₂ (fun c t => c = t ∨ c = t.toUpper) s.toList "true".toList

instance : DecidablePred SpellsTrue := fun s =>
  inferInstanceAs (Decidable (Forall₂ _ s.toList "true".toList))

/-- Only the two forms of a small letter of ASCII become it. -/
theorem toLower_eq_iff {c t : Char} (ht : 'a' ≤ t ∧ t ≤ 'z') :
    c.toLower = t ↔ c = t ∨ c = t.toUpper := by
  have hletters : 'A'.val.toNat = 65 ∧ 'Z'.val.toNat = 90 ∧ 'a'.val.toNat = 97 ∧
      'z'.val.toNat = 122 := ⟨rfl, rfl, rfl, rfl⟩
  -- Letters are shifted within 32 bits; the shift back wraps around.
  have hadd : ('a'.val - 'A'.val).toNat = 32 := rfl
  have hsub : ('A'.val - 'a'.val).toNat = 2 ^ 32 - 32 := rfl
  obtain ⟨hfirst, hlast⟩ : 'a'.val.toNat ≤ t.val.toNat ∧ t.val.toNat ≤ 'z'.val.toNat := ht
  have hupper : t.toUpper.val.toNat = t.val.toNat - 32 := by
    delta Char.toUpper
    rw [dif_pos ⟨hfirst, hlast⟩, UInt32.toNat_add, hsub]
    omega
  have hc := c.val.toNat_lt
  rw [Char.ext_iff, Char.ext_iff, Char.ext_iff, ← UInt32.toNat_inj, ← UInt32.toNat_inj,
    ← UInt32.toNat_inj, hupper]
  delta Char.toLower
  split
  · rename_i hcapital
    rw [ge_iff_le, UInt32.le_iff_toNat_le, UInt32.le_iff_toNat_le] at hcapital
    rw [UInt32.toNat_add, hadd]
    omega
  · rename_i hother
    rw [ge_iff_le, UInt32.le_iff_toNat_le, UInt32.le_iff_toNat_le] at hother
    omega

theorem map_toLower_eq_iff {cs ts : List Char} (h : ∀ t ∈ ts, 'a' ≤ t ∧ t ≤ 'z') :
    cs.map Char.toLower = ts ↔ Forall₂ (fun c t => c = t ∨ c = t.toUpper) cs ts := by
  induction ts generalizing cs with
  | nil => rw [List.map_eq_nil_iff, List.forall₂_nil_right_iff]
  | cons t ts ih =>
    obtain ⟨ht, hts⟩ := List.forall_mem_cons.1 h
    cases cs with
    | nil => simp
    | cons c cs =>
      rw [List.map_cons, List.cons.injEq, toLower_eq_iff ht, ih hts, List.forall₂_cons]

/-- All spellings of the word are read, and no others. -/
theorem isTrue_iff {s : String} : isTrue s = true ↔ SpellsTrue s := by
  have hletters : ∀ t ∈ "true".toList, 'a' ≤ t ∧ t ≤ 'z' := by decide
  have hlower : s.toLower.toList = s.toList.map Char.toLower := String.toList_map
  rw [isTrue, beq_iff_eq, ← String.toList_inj, hlower, map_toLower_eq_iff hletters, SpellsTrue]

/-! ## Children -/

/-- The children of a name, in whichever namespace. -/
def childrenOf (e : Element) (base : String) : List Element :=
  e.children.filter (·.name.base == base)

/-- There is no child of a name. -/
def Lacks (e : Element) (base : String) : Prop := childrenOf e base = []

/-- There is one child of a name, which is in the namespace and has a property. -/
def Holds (space : Option String) (e : Element) (base : String) (P : Element → Prop) : Prop :=
  ∃ x, childrenOf e base = [x] ∧ x.name.space = space ∧ P x

instance (e : Element) (base : String) : Decidable (Lacks e base) :=
  inferInstanceAs (Decidable (_ = []))

instance [DecidablePred P] : Decidable (Holds space e base P) :=
  match h : childrenOf e base with
  | [] => .isFalse (by simp [Holds, h])
  | [x] => decidable_of_iff (x.name.space = space ∧ P x) (by simp [Holds, h])
  | _ :: _ :: _ => .isFalse (by simp [Holds, h])

/-- The namespaces of project object models. -/
def IsSpace (space : Option String) : Prop := space = none ∨ space = some mavenSpace

/-- Children that are all in one space are found there or not at all. -/
theorem childrenNamed_eq (h : ∀ x ∈ childrenOf e base, x.name.space = space)
    (space' : Option String) :
    e.childrenNamed ⟨space', base⟩ = if space' = space then childrenOf e base else [] := by
  have hnamed : e.childrenNamed ⟨space', base⟩ =
      (childrenOf e base).filter (·.name.space == space') := by
    rw [childrenOf, List.filter_filter]
    refine List.filter_congr fun x _ => ?_
    obtain ⟨⟨xspace, xbase⟩, _, _⟩ := x
    rw [Bool.eq_iff_iff]
    simp
  rw [hnamed]
  split
  · rename_i hspace
    rw [List.filter_eq_self]
    intro x hx
    simp [h x hx, hspace]
  · rename_i hspace
    rw [List.filter_eq_nil_iff]
    intro x hx
    simp [h x hx, Ne.symm hspace]

/-- Children that are all in one namespace are found in their order. -/
theorem findAll_eq (hspace : IsSpace space) (h : ∀ x ∈ childrenOf e base, x.name.space = space) :
    findAll e base = childrenOf e base := by
  have hplain : Xml.Name.plain base = ⟨none, base⟩ := rfl
  rw [findAll, mavenName, hplain, childrenNamed_eq h, childrenNamed_eq h]
  rcases hspace with rfl | rfl <;> simp

/-- A child that is lacking is not found, … -/
theorem Lacks.find?_eq (h : Lacks e base) : find? e base = none := by
  have hnone : ∀ x ∈ childrenOf e base, x.name.space = none := by
    rw [h]
    simp
  rw [find?, findAll_eq (.inl rfl) hnone, h]
  rfl

theorem Lacks.text?_eq (h : Lacks e base) : text? e base = none := by
  rw [text?, h.find?_eq]
  rfl

/-- … and one that is there is, in either of the two spaces. -/
theorem Holds.find?_eq (hspace : IsSpace space) (h : Holds space e base P) :
    ∃ x, find? e base = some x ∧ P x := by
  obtain ⟨x, hx, hname, hP⟩ := h
  have hall : ∀ y ∈ childrenOf e base, y.name.space = space := by
    rw [hx]
    simpa using hname
  refine ⟨x, ?_, hP⟩
  rw [find?, findAll_eq hspace hall, hx]
  rfl

/-- The text of a child is what is written in it. -/
theorem Holds.text?_eq (hspace : IsSpace space) (h : Holds space e base (Writes text)) :
    text? e base = some text := by
  obtain ⟨x, hx, hwrites⟩ := h.find?_eq hspace
  rw [text?, hx, Option.bind_some, hwrites.trimmed_eq, if_neg hwrites.solid.nonempty]

/-- A text is written in the child of a name, or there is neither. -/
def HoldsOptional (space : Option String) (e : Element) (base : String) : Option String → Prop
  | some text => Holds space e base (Writes text)
  | none => Lacks e base

instance : Decidable (HoldsOptional space e base value) :=
  match value with
  | some text => inferInstanceAs (Decidable (Holds space e base (Writes text)))
  | none => inferInstanceAs (Decidable (Lacks e base))

/-- The text is found if it is written, and none if there is no child. -/
theorem HoldsOptional.text?_eq (hspace : IsSpace space)
    (h : HoldsOptional space e base value) : text? e base = value := by
  cases value with
  | none => exact Lacks.text?_eq h
  | some text => exact Holds.text?_eq hspace h

/-- A text is written in the child of a name, or it is the default and there is no child. -/
def HoldsUnless (space : Option String) (e : Element) (base default text : String) : Prop :=
  Holds space e base (Writes text) ∨ (text = default ∧ Lacks e base)

instance : Decidable (HoldsUnless space e base default text) :=
  inferInstanceAs (Decidable (_ ∨ _))

/-- Without a child, the text is the default. -/
theorem HoldsUnless.text?_eq (hspace : IsSpace space)
    (h : HoldsUnless space e base default text) : (text? e base).getD default = text := by
  rcases h with h | ⟨rfl, h⟩
  · rw [h.text?_eq hspace]
    rfl
  · rw [h.text?_eq]
    rfl

/-- A text is written in the child of a name, whatever is in the parent; or only in the child
    of this name in the parent; or it is written in neither of them. -/
def Declares (space : Option String) (root : Element) (base : String) : Option String → Prop
  | some text => Holds space root base (Writes text) ∨
    (Lacks root base ∧ Holds space root "parent" fun parent =>
      Holds space parent base (Writes text))
  | none => Lacks root base ∧ (Lacks root "parent" ∨ Holds space root "parent" (Lacks · base))

instance : Decidable (Declares space root base value) :=
  match value with
  | some _ => inferInstanceAs (Decidable (_ ∨ _))
  | none => inferInstanceAs (Decidable (_ ∧ _))

/-- The coordinates are those of the project, or else of its parent. -/
theorem Declares.text?_or (hspace : IsSpace space) (h : Declares space root base value) :
    (text? root base).or ((find? root "parent").bind (text? · base)) = value := by
  cases value with
  | none =>
    obtain ⟨hroot, hparent⟩ := h
    rw [hroot.text?_eq, Option.none_or]
    rcases hparent with hlacks | hholds
    · rw [hlacks.find?_eq]
      rfl
    · obtain ⟨parent, hfind, hlacks⟩ := hholds.find?_eq hspace
      rw [hfind, Option.bind_some, hlacks.text?_eq]
  | some text =>
    rcases h with hroot | ⟨hroot, hparent⟩
    · -- The parent may have other ones, which do not count.
      rw [hroot.text?_eq hspace, Option.some_or]
    · obtain ⟨parent, hfind, hholds⟩ := hparent.find?_eq hspace
      rw [hroot.text?_eq, Option.none_or, hfind, Option.bind_some, hholds.text?_eq hspace]

/-! ## Dependencies -/

/-- An element tells whether a dependency is optional, which it is by yes in any letter case. -/
def TellsOptional (isOptional : Bool) (x : Element) : Prop :=
  ∃ text, Writes text x ∧ (isOptional = true ↔ SpellsTrue text)

instance (isOptional : Bool) : DecidablePred (TellsOptional isOptional) := fun x =>
  decidable_of_iff (Writes (Text.trimmed x.leadingText) x ∧
      (isOptional = true ↔ SpellsTrue (Text.trimmed x.leadingText))) <| by
    constructor
    · rintro ⟨hwrites, hspells⟩
      exact ⟨_, hwrites, hspells⟩
    · rintro ⟨text, hwrites, hspells⟩
      rw [hwrites.trimmed_eq]
      exact ⟨hwrites, hspells⟩

/-- An element encodes a dependency. -/
@[mk_iff]
structure EncodesDependency (space : Option String) (d : PomDependency) (e : Element) :
    Prop where
  name : e.name.space = space
  groupId : Holds space e "groupId" (Writes d.groupId)
  artifactId : Holds space e "artifactId" (Writes d.artifactId)
  version : HoldsOptional space e "version" d.version
  scope : HoldsUnless space e "scope" "compile" d.scope
  classifier : HoldsOptional space e "classifier" d.classifier
  type : HoldsOptional space e "type" d.type
  optional : (d.isOptional = false ∧ Lacks e "optional") ∨
    Holds space e "optional" (TellsOptional d.isOptional)

instance : Decidable (EncodesDependency space d e) :=
  decidable_of_iff' _ (encodesDependency_iff space d e)

/-- A dependency is read as it is encoded. -/
theorem EncodesDependency.readDependency_eq (hspace : IsSpace space)
    (h : EncodesDependency space d e) : readDependency e = d := by
  have hoptional : (text? e "optional").any isTrue = d.isOptional := by
    rcases h.optional with ⟨hno, hlacks⟩ | hholds
    · rw [hlacks.text?_eq, hno]
      rfl
    · obtain ⟨x, hx, text, hwrites, hspells⟩ := hholds.find?_eq hspace
      rw [text?, hx, Option.bind_some, hwrites.trimmed_eq, if_neg hwrites.solid.nonempty,
        Option.any_some, Bool.eq_iff_iff, isTrue_iff, hspells]
  rw [readDependency, h.groupId.text?_eq hspace, h.artifactId.text?_eq hspace,
    h.version.text?_eq hspace, h.scope.text?_eq hspace, h.classifier.text?_eq hspace,
    h.type.text?_eq hspace, hoptional]
  rfl

/-! ## Properties -/

/-- An element encodes a property. -/
def EncodesProperty (space : Option String) (property : String × Option String) (x : Element) :
    Prop :=
  x.name = ⟨space, property.1⟩ ∧ ∃ text, property.2 = some text ∧ Writes text x

instance (property : String × Option String) (x : Element) :
    Decidable (EncodesProperty space property x) :=
  decidable_of_iff (x.name = ⟨space, property.1⟩ ∧ ∃ text ∈ property.2, Writes text x) Iff.rfl

/-- Properties of different names are set one after the other. -/
theorem foldl_setProperty {children : List Element} (before : Properties)
    (h : Forall₂ (EncodesProperty space) properties children)
    (hnames : ((before ++ properties).map Prod.fst).Nodup) :
    children.foldl (fun properties child =>
      if child.leadingText = "" then properties
      else setProperty properties child.name.base (Text.trimmed child.leadingText)) before =
      before ++ properties := by
  induction h generalizing before with
  | nil => simp
  | @cons property x properties children hx _ ih =>
    obtain ⟨name, value⟩ := property
    obtain ⟨hname, text, hvalue, hwrites⟩ := hx
    simp only at hname hvalue
    subst hvalue
    have hne : x.leadingText ≠ "" := by
      intro hempty
      have htrimmed := hwrites.trimmed_eq
      rw [hempty] at htrimmed
      exact hwrites.solid.nonempty htrimmed.symm
    -- The property is new, so it is added at the end.
    rw [List.append_cons] at hnames ⊢
    have hnew : before.lookup name = none := by
      rw [List.lookup_eq_none_iff]
      intro q hq
      rw [List.map_append, List.map_append, List.append_assoc] at hnames
      have hdistinct := (List.nodup_append.1 hnames).2.2
      have hne := hdistinct q.1 (List.mem_map_of_mem hq) name (by simp)
      simpa using hne.symm
    rw [List.foldl_cons, if_neg hne, hwrites.trimmed_eq, hname, setProperty, hnew]
    exact ih _ hnames

theorem readProperties_eq (h : Forall₂ (EncodesProperty space) properties e.children)
    (hnames : (properties.map Prod.fst).Nodup) : readProperties e = properties :=
  foldl_setProperty [] h hnames

/-! ## Projects -/

/-- An element encodes a project. -/
@[mk_iff]
structure Encodes (space : Option String) (p : PomProject) (root : Element) : Prop where
  groupId : Declares space root "groupId" (some p.groupId)
  artifactId : Holds space root "artifactId" (Writes p.artifactId)
  version : Declares space root "version" p.version
  packaging : HoldsUnless space root "packaging" "jar" p.packaging
  properties : (p.properties = [] ∧ Lacks root "properties") ∨
    Holds space root "properties" fun x => Forall₂ (EncodesProperty space) p.properties x.children
  dependencies : (p.dependencies = [] ∧ Lacks root "dependencies") ∨
    Holds space root "dependencies" fun x =>
      Forall₂ (EncodesDependency space) p.dependencies (childrenOf x "dependency")

instance : Decidable (Encodes space p root) := decidable_of_iff' _ (encodes_iff space p root)

/-- So are the dependencies, in their order. -/
theorem map_readDependency {ds : List PomDependency} (hspace : IsSpace space)
    (h : Forall₂ (EncodesDependency space) ds (childrenOf e "dependency")) :
    (findAll e "dependency").map readDependency = ds := by
  have hall : ∀ x ∈ childrenOf e "dependency", x.name.space = space := by
    generalize childrenOf e "dependency" = children at h
    induction h with
    | nil => simp
    | cons hx _ ih => exact List.forall_mem_cons.2 ⟨hx.name, ih⟩
  rw [findAll_eq hspace hall]
  generalize childrenOf e "dependency" = children at h
  induction h with
  | nil => rfl
  | cons hx _ ih => rw [List.map_cons, hx.readDependency_eq hspace, ih]

/-- A project is read as it is encoded. -/
theorem Encodes.readProject_eq (hspace : IsSpace space) (h : Encodes space p root)
    (hnames : (p.properties.map Prod.fst).Nodup) : readProject root = p := by
  have hproperties : ((find? root "properties").map readProperties).getD [] = p.properties := by
    rcases h.properties with ⟨hnil, hlacks⟩ | hholds
    · rw [hlacks.find?_eq, hnil]
      rfl
    · obtain ⟨x, hx, hall⟩ := hholds.find?_eq hspace
      rw [hx, Option.map_some, readProperties_eq hall hnames]
      rfl
  have hdependencies : ((find? root "dependencies").map fun e =>
      (findAll e "dependency").map readDependency).getD [] = p.dependencies := by
    rcases h.dependencies with ⟨hnil, hlacks⟩ | hholds
    · rw [hlacks.find?_eq, hnil]
      rfl
    · obtain ⟨x, hx, hall⟩ := hholds.find?_eq hspace
      rw [hx, Option.map_some, map_readDependency hspace hall]
      rfl
  rw [readProject, h.groupId.text?_or hspace, h.artifactId.text?_eq hspace,
    h.version.text?_or hspace, h.packaging.text?_eq hspace, hproperties, hdependencies]
  rfl

/-- A project that is encoded by a document is read in it, its properties and dependencies in
    the order of the document. -/
theorem loadProject_of_encodes {file : Path} {s : Session} {bytes : ByteArray}
    (hspace : IsSpace space) (h : Encodes space p root)
    (hnames : (p.properties.map Prod.fst).Nodup) (hread : s.workspace.readFile file = .ok bytes)
    (hroot : Xml.readDocument bytes = .ok root) : (loadProject file).runIn s = (.ok p, s) := by
  rw [loadProject_of_readFile hread hroot, h.readProject_eq hspace hnames]

/-- A project with a property and two dependencies. -/
def sampleProject : PomProject where
  groupId := "g"
  artifactId := "a"
  version := some "1"
  properties := [("v", some "2")]
  dependencies :=
    [{ groupId := "h", artifactId := "b", version := some "${v}", isOptional := true },
      { groupId := "h", artifactId := "c", scope := "test" }]

/-- A document that encodes it, in pieces: its group is in the parent only, and there are
    other versions and dependencies in it. -/
def samplePieces : List String :=
  ["<project xmlns=\"http://maven.apache.org/", "POM/4.0.0\"><version> 1\n</version>",
    "<dependencyManagement><dependencies>", "<dependency><version>3</version>", "</dependency>",
    "</dependencies></dependencyManagement>", "<dependencies><dependency>",
    "<version>${v}</version>", "<optional>True</optional>", "<exclusions><groupId>k</groupId>",
    "</exclusions><artifactId>b</artifactId>", "<groupId>h</groupId></dependency>",
    "<dependency><groupId>h</groupId>", "<artifactId>c</artifactId>", "<scope>test</scope>",
    "</dependency></dependencies>", "<parent><version>0</version>", "<groupId>g</groupId>",
    "</parent><artifactId>a</artifactId>", "<properties><v>2</v></properties>", "</project>"]

/-- The document in a file. -/
def sampleSession : Session :=
  ⟨.holding [("pom.xml", String.join samplePieces)], [], [], []⟩

theorem loadProject_sampleDocument : ∃ bytes root,
    sampleSession.workspace.readFile (.ofString "pom.xml") = .ok bytes ∧
    Xml.readDocument bytes = .ok root ∧
    IsSpace (some mavenSpace) ∧ Encodes (some mavenSpace) sampleProject root ∧
    (sampleProject.properties.map Prod.fst).Nodup ∧
    (loadProject (.ofString "pom.xml")).runIn sampleSession =
      (.ok sampleProject, sampleSession) := by
  have hread : sampleSession.workspace.readFile (.ofString "pom.xml") =
      .ok (String.join samplePieces).toUTF8 := rfl
  have hchars : (String.join samplePieces).toList = samplePieces.flatMap String.toList := by
    simp
  obtain ⟨root, hbody, hencoded⟩ : ∃ root,
      Xml.readBody .complete false (samplePieces.flatMap String.toList) = .ok root ∧
        Encodes (some mavenSpace) sampleProject root := by
    decide +kernel
  have hroot : Xml.readDocument (String.join samplePieces).toUTF8 = .ok root := by
    rw [Xml.readDocument_undeclared (hchars.trans rfl) (by decide) (by decide) (by decide),
      hchars, hbody]
    rfl
  have hnames : (sampleProject.properties.map Prod.fst).Nodup := by decide
  exact ⟨_, root, hread, hroot, .inr rfl, hencoded, hnames,
    loadProject_of_encodes (.inr rfl) hencoded hnames hread hroot⟩

end JavaBuild.Pom
