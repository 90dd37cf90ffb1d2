import JavaBuild.Proofs.Pom.Encoding

/-!
# Documents in the Maven namespace and in none

Whether the elements of a document are all in the Maven namespace or all in none, the same
project is read (`readProject_within`). For children of a name are found in the order in which
they are in the content, whichever of the two namespaces they are in (`findAll_within`), texts
do not depend on it, and of the names of properties only the bases count.
-/

namespace JavaBuild

namespace Xml

variable {n : Node} {e : Element}

/-! ## Putting elements into a namespace -/

mutual

/-- A node with all elements put into a namespace, or into none. Attributes stay. -/
def Node.within (space : Option String) : Node → Node
  | .text s => .text s
  | .element name attributes content =>
    .element ⟨space, name.base⟩ attributes (Node.allWithin space content)

/-- A content with all elements put into a namespace. -/
def Node.allWithin (space : Option String) : List Node → List Node
  | [] => []
  | n :: content => n.within space :: Node.allWithin space content

end

theorem Node.allWithin_eq (space : Option String) (content : List Node) :
    allWithin space content = content.map (within space) := by
  induction content with
  | nil => rw [allWithin, List.map_nil]
  | cons n content ih => rw [allWithin, List.map_cons, ih]

/-- An element with all elements in it put into a namespace. -/
def Element.within (space : Option String) (e : Element) : Element :=
  ⟨⟨space, e.name.base⟩, e.attributes, e.content.map (Node.within space)⟩

/-- A node in which all elements are in no namespace. -/
inductive Node.IsPlain : Node → Prop
  | text (s : String) : IsPlain (.text s)
  | element (base : String) (attributes : List Attribute) {content : List Node}
    (h : ∀ n ∈ content, n.IsPlain) : IsPlain (.element (.plain base) attributes content)

/-- An element in no namespace, as are all elements in it. -/
structure Element.IsPlain (e : Element) : Prop where
  name : e.name.space = none
  content : ∀ n ∈ e.content, n.IsPlain

/-- What is plain stays as it is in no namespace. -/
theorem Node.IsPlain.within_eq (h : n.IsPlain) : n.within none = n := by
  induction h with
  | text s => rw [Node.within]
  | element base attributes _ ih =>
    rw [Node.within, Node.allWithin_eq, List.map_congr_left ih, List.map_id']
    rfl

/-- Elements in no namespace need not be put there. -/
theorem Element.IsPlain.within_eq (h : e.IsPlain) : e.within none = e := by
  obtain ⟨⟨space, base⟩, attributes, content⟩ := e
  obtain ⟨rfl, hcontent⟩ := h
  rw [within, List.map_congr_left fun n hn => (hcontent n hn).within_eq, List.map_id']

mutual

/-- What has been put in none is plain. -/
theorem Node.isPlain_within : (n : Node) → (n.within none).IsPlain
  | .text s => by
    rw [Node.within]
    exact .text s
  | .element name attributes content => by
    rw [Node.within]
    exact .element name.base attributes (Node.isPlain_of_mem_allWithin content)

theorem Node.isPlain_of_mem_allWithin :
    (content : List Node) → ∀ n ∈ Node.allWithin none content, n.IsPlain
  | [] => by simp [Node.allWithin]
  | n :: content => by
    rw [Node.allWithin, List.forall_mem_cons]
    exact ⟨n.isPlain_within, Node.isPlain_of_mem_allWithin content⟩

end

/-- An element is plain exactly if it stays as it is in no namespace. -/
theorem Element.isPlain_iff : e.IsPlain ↔ e.within none = e := by
  refine ⟨IsPlain.within_eq, fun h => h ▸ ⟨rfl, ?_⟩⟩
  rw [within, ← Node.allWithin_eq]
  exact Node.isPlain_of_mem_allWithin e.content

instance : DecidablePred Element.IsPlain := fun _ => decidable_of_iff' _ Element.isPlain_iff

/-! ## Looking into elements -/

theorem Node.element?_within (space : Option String) (n : Node) :
    (n.within space).element? = n.element?.map (Element.within space) := by
  cases n with
  | text s => rw [within]; rfl
  | element name attributes content =>
    rw [within, allWithin_eq]
    rfl

/-- The children are put into the namespace with the element, … -/
theorem Element.children_within (space : Option String) (e : Element) :
    (e.within space).children = e.children.map (within space) := by
  rw [children, within, children, List.filterMap_map, List.map_filterMap]
  exact List.filterMap_congr fun n _ => n.element?_within space

/-- … and its text is the same. -/
theorem Element.leadingText_within (space : Option String) (e : Element) :
    (e.within space).leadingText = e.leadingText := by
  rw [leadingText, leadingText, within]
  induction e.content with
  | nil => rfl
  | cons n content ih =>
    cases n with
    | text s => rw [List.map_cons, Node.within, leadingTextOf, leadingTextOf, ih]
    | element name attributes inner => rw [List.map_cons, Node.within]; rfl

end Xml

namespace Pom

open Xml (Element)

variable {space space' : Option String} {root : Element}

theorem childrenOf_within (space : Option String) (e : Element) (base : String) :
    childrenOf (e.within space) base = (childrenOf e base).map (Element.within space) := by
  rw [childrenOf, Element.children_within, List.filter_map, childrenOf]
  rfl

/-- Children are found in the order of the content. -/
theorem findAll_within (hspace : IsSpace space) (e : Element) (base : String) :
    findAll (e.within space) base = (childrenOf e base).map (Element.within space) := by
  rw [← childrenOf_within]
  refine findAll_eq hspace fun x hx => ?_
  rw [childrenOf_within] at hx
  obtain ⟨y, -, rfl⟩ := List.mem_map.1 hx
  rfl

/-- A child is found in a namespace that counts, whichever it is. -/
theorem find?_within (hspace : IsSpace space) (e : Element) (base : String) :
    find? (e.within space) base = (childrenOf e base).head?.map (Element.within space) := by
  rw [find?, findAll_within hspace, List.head?_map]

/-- A text is that of the first child of the name. -/
theorem text?_within (hspace : IsSpace space) (e : Element) (base : String) :
    text? (e.within space) base = (childrenOf e base).head?.bind fun x =>
      if Text.trimmed x.leadingText = "" then none else some (Text.trimmed x.leadingText) := by
  rw [text?, find?_within hspace, Option.bind_map]
  simp only [Function.comp_def, Element.leadingText_within]

/-- So a dependency is read alike in both. -/
theorem readDependency_within (hspace : IsSpace space) (hspace' : IsSpace space') (e : Element) :
    readDependency (e.within space) = readDependency (e.within space') := by
  simp only [readDependency, text?_within hspace, text?_within hspace']

/-- Of the name of a property only the base counts. -/
theorem readProperties_within (space : Option String) (e : Element) :
    readProperties (e.within space) = readProperties e := by
  rw [readProperties, Element.children_within, List.foldl_map, readProperties]
  simp only [Element.leadingText_within]
  rfl

/-- Whichever of the two namespaces the elements are in, the same project is read. -/
theorem readProject_within (hspace : IsSpace space) (hspace' : IsSpace space') (root : Element) :
    readProject (root.within space) = readProject (root.within space') := by
  simp only [readProject, text?_within hspace, text?_within hspace', find?_within hspace,
    find?_within hspace', Option.bind_map, Option.map_map, Function.comp_def,
    findAll_within hspace, findAll_within hspace', readProperties_within, List.map_map,
    readDependency_within hspace hspace']

/-- In a document without namespaces the same project is read as in the one with all elements
    put into the Maven namespace, well-formed as a project or not. -/
theorem loadProject_within (hplain : root.IsPlain) :
    readProject (root.within (some mavenSpace)) = readProject root ∧
    ∀ {file file' : Path} {s s' : Session} {bytes bytes' : ByteArray},
      s.workspace.readFile file = .ok bytes → Xml.readDocument bytes = .ok root →
      s'.workspace.readFile file' = .ok bytes' →
      Xml.readDocument bytes' = .ok (root.within (some mavenSpace)) →
      (loadProject file).runIn s = (.ok (readProject root), s) ∧
        (loadProject file').runIn s' = (.ok (readProject root), s') := by
  have hsame : readProject (root.within (some mavenSpace)) = readProject root := by
    rw [readProject_within (.inr rfl) (.inl rfl), hplain.within_eq]
  refine ⟨hsame, fun hread hroot hread' hroot' => ⟨loadProject_of_readFile hread hroot, ?_⟩⟩
  rw [loadProject_of_readFile hread' hroot', hsame]

/-- What is in a document, in pieces: its group is empty where it counts, there are an empty
    and a repeated property, and elements in places where they mean nothing. -/
def oddPieces : List String :=
  ["<groupId/><groupId>late</groupId>", "<parent><groupId>g</groupId>", "</parent><properties>",
    "<v/><w>1</w><w>2</w></properties>", "<project><version>3</version>", "</project>",
    "<dependencies><groupId>k</groupId>", "<dependency/><dependency>", "<optional>TRUE</optional>",
    "</dependency></dependencies>", "</project>"]

/-- The document without namespaces. -/
def plainPieces : List String := "<project>" :: oddPieces

/-- The document in the Maven namespace. -/
def mavenPieces : List String :=
  "<project xmlns=\"http://maven.apache.org/" :: "POM/4.0.0\">" :: oddPieces

/-- Both documents in files. -/
def oddSession : Session :=
  ⟨.holding [("plain.xml", String.join plainPieces), ("pom.xml", String.join mavenPieces)],
    [], [], []⟩

theorem loadProject_within_odd : ∃ bytes bytes' root,
    root.IsPlain ∧
    (oddSession.workspace.readFile (.ofString "plain.xml") = .ok bytes ∧
      Xml.readDocument bytes = .ok root) ∧
    (oddSession.workspace.readFile (.ofString "pom.xml") = .ok bytes' ∧
      Xml.readDocument bytes' = .ok (root.within (some mavenSpace))) ∧
    ∃ project, project.groupId = "g" ∧
      (loadProject (.ofString "plain.xml")).runIn oddSession = (.ok project, oddSession) ∧
      (loadProject (.ofString "pom.xml")).runIn oddSession = (.ok project, oddSession) := by
  obtain ⟨root, hbody, hplain, hgroup, _, hbody', rfl⟩ : ∃ root,
      Xml.readBody .complete false (plainPieces.flatMap String.toList) = .ok root ∧
        root.IsPlain ∧ (readProject root).groupId = "g" ∧ ∃ root',
          Xml.readBody .complete false (mavenPieces.flatMap String.toList) = .ok root' ∧
            root' = root.within (some mavenSpace) := by
    decide +kernel
  have hread : oddSession.workspace.readFile (.ofString "plain.xml") =
      .ok (String.join plainPieces).toUTF8 := rfl
  have hread' : oddSession.workspace.readFile (.ofString "pom.xml") =
      .ok (String.join mavenPieces).toUTF8 := rfl
  have hroot := Xml.readDocument_join rfl (by decide) (by decide) (by decide) hbody
  have hroot' := Xml.readDocument_join rfl (by decide) (by decide) (by decide) hbody'
  obtain ⟨-, hloads⟩ := loadProject_within hplain
  exact ⟨_, _, root, hplain, ⟨hread, hroot⟩, ⟨hread', hroot'⟩, _, hgroup,
    hloads hread hroot hread' hroot'⟩

end Pom

end JavaBuild
