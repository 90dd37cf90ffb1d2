import JavaBuild.DependencyFile
import JavaBuild.Pom.Writer
import JavaBuild.Proofs.FileTree.Access
import JavaBuild.Proofs.Text.Line
import JavaBuild.Proofs.Xml.Content
import JavaBuild.Proofs.Xml.Document

/-!
# Reading minimal project object models

A minimal project object model is a root with four elements, each on a line of its own
with a text in which special characters are escaped (`readDocument_minimalPom`). So
what is read in it is what it has been written for: the coordinates of the artifact,
and the defaults of everything else (`loadProject_minimalPom`).
-/

namespace JavaBuild.Pom

open Xml (EscapesText PlainName Reads endTagChars tagChars)

variable {a : Artifact} {text : String} {root : Xml.Element} {fields : List (String × String)}

/-! ## Texts -/

/-- A text that is the same after it has been written into a document and read. -/
@[mk_iff]
structure Legible (text : String) : Prop where
  nonempty : text ≠ ""
  /-- There is no blank at either end. -/
  first : ∀ c ∈ text.toList.head?, Text.isBlank c = false
  last : ∀ c ∈ text.toList.getLast?, Text.isBlank c = false
  chars : ∀ c ∈ text.toList, Xml.isXmlChar c ∧ c ≠ '\r'

instance (text : String) : Decidable (Legible text) := decidable_of_iff' _ (legible_iff text)

/-- A legible text is read as it is. -/
theorem Legible.trimmed_eq (h : Legible text) : Text.trimmed text = text := by
  rw [Text.trimmed, Text.trim_eq_self h.first h.last, String.ofList_toList]

/-- A character is read from what stands for it. -/
theorem escapesText_escapeChar {c : Char} (h : Xml.isXmlChar c ∧ c ≠ '\r') :
    EscapesText c (escapeChar c) := by
  unfold escapeChar
  split
  · subst_vars
    exact .reference Xml.standsFor_amp
  · split
    · subst_vars
      exact .reference Xml.standsFor_lt
    · split
      · subst_vars
        exact .reference Xml.standsFor_gt
      · rename_i hamp hlt hgt
        exact .itself h.1 ⟨hlt, hgt, hamp, h.2⟩

/-! ## Elements with a text -/

/-- The element with a name and a text. -/
def field (f : String × String) : Xml.Element :=
  ⟨.plain f.1, [], Xml.consText f.2.toList []⟩

theorem leadingText_field (f : String × String) : (field f).leadingText = f.2 := by
  rw [Xml.Element.leadingText, field, Xml.leadingTextOf_consText, String.ofList_toList]
  exact String.append_empty

/-- Among elements without a namespace, the first of a name is found. -/
theorem find?_fields (h : root.children = fields.map field) (base : String) :
    find? root base = (fields.find? fun f => f.1 == base).map field := by
  have hmaven : root.childrenNamed (mavenName base) = [] := by
    rw [Xml.Element.childrenNamed, h, List.filter_eq_nil_iff]
    rintro _ hf
    obtain ⟨f, -, rfl⟩ := List.mem_map.1 hf
    simp [field, mavenName, Xml.Name.plain]
  have hplain : root.childrenNamed (.plain base) =
      (fields.filter fun f => f.1 == base).map field := by
    rw [Xml.Element.childrenNamed, h, List.filter_map]
    congr 2
    funext f
    simp [field, Xml.Name.plain, Bool.beq_eq_decide_eq]
  rw [find?, findAll, hmaven, hplain, List.nil_append, List.head?_map, List.head?_filter]

/-- The text of a field is that of the first one of the name. -/
theorem text?_fields (h : root.children = fields.map field) (base : String) :
    text? root base = (fields.find? fun f => f.1 == base).bind fun f =>
      if Text.trimmed f.2 = "" then none else some (Text.trimmed f.2) := by
  rw [text?, find?_fields h, Option.bind_map]
  simp only [Function.comp_def, leadingText_field]

/-- The texts of a minimal project object model, with the names of their elements. -/
def minimalFields (a : Artifact) : List (String × String) :=
  [("modelVersion", "4.0.0"), ("groupId", a.group), ("artifactId", a.id), ("version", a.version)]

/-- The project of an artifact without properties and dependencies. -/
def bareProject (a : Artifact) : PomProject where
  groupId := a.group
  artifactId := a.id
  version := some a.version
  packaging := "jar"
  properties := []
  dependencies := []

/-- The project that has just the fields of an artifact is read from them. -/
theorem readProject_minimalFields (h : root.children = (minimalFields a).map field)
    (hgroup : Legible a.group) (hid : Legible a.id) (hversion : Legible a.version) :
    readProject root = bareProject a := by
  rw [readProject]
  simp [text?_fields h, find?_fields h, minimalFields, bareProject, hgroup.trimmed_eq,
    hgroup.nonempty, hid.trimmed_eq, hid.nonempty, hversion.trimmed_eq, hversion.nonempty]

/-! ## The document -/

/-- The characters of an element with a text, from the end of the line before it on. -/
def fieldChars (f : String × String) : List Char :=
  ['\n', ' ', ' '] ++ '<' :: (tagChars f.1.toList [] false ++
    (f.2.toList.flatMap escapeChar ++ endTagChars f.1.toList))

theorem fieldChars_append (f : String × String) (rest : List Char) :
    fieldChars f ++ rest = ['\n', ' ', ' '] ++ '<' :: (tagChars f.1.toList [] false ++
      (f.2.toList.flatMap escapeChar ++ (endTagChars f.1.toList ++ rest))) := by
  simp [fieldChars]

theorem toList_elementLine (name text : String) (rest : List Char) :
    '\n' :: ((elementLine name text).toList ++ rest) = fieldChars (name, text) ++ '\n' :: rest := by
  have hline : elementLine name text =
      "  <" ++ name ++ ">" ++ escape text ++ "</" ++ name ++ ">\n" := rfl
  have hescape : (escape text).toList = text.toList.flatMap escapeChar := String.toList_ofList
  rw [hline, fieldChars, tagChars, endTagChars]
  simp only [String.toList_append, hescape, List.append_assoc, List.cons_append,
    List.nil_append]
  rfl

/-- The document is its fields, each on a line of its own, in one element. -/
theorem toList_minimalPom (a : Artifact) : (minimalPom a).toList =
    '<' :: (tagChars "project".toList [] false ++ ((minimalFields a).flatMap fieldChars ++
      (['\n'] ++ (endTagChars "project".toList ++ ['\n'])))) := by
  have hpom : minimalPom a = "<project>\n" ++ elementLine "modelVersion" "4.0.0" ++
      elementLine "groupId" a.group ++ elementLine "artifactId" a.id ++
      elementLine "version" a.version ++ "</project>\n" := rfl
  have hopen : "<project>\n".toList = '<' :: (tagChars "project".toList [] false ++ ['\n']) := rfl
  rw [hpom]
  simp only [String.toList_append, hopen, List.append_assoc, List.cons_append, List.nil_append,
    toList_elementLine, minimalFields, List.flatMap_cons, List.flatMap_nil]
  rfl

/-- What is read from these characters: the end of the line before with blanks, and
    the element. -/
def fieldNodes (f : String × String) : List Xml.Node := [.text "\n  ", (field f).node]

variable {e : Xml.TextEnd} {expand : Xml.Bindings → List Char → Except Xml.XmlFault (List Xml.Node)}
  {bindings : Xml.Bindings} {t cs rest : List Char} {content : Xml.Content}

/-- An escaped text is read in front of a tag. -/
theorem reads_escaped (ht : ∀ c ∈ t, Xml.isXmlChar c ∧ c ≠ '\r')
    (hrest : Reads e expand bindings ('<' :: rest) content) :
    Reads e expand bindings (t.flatMap escapeChar ++ '<' :: rest) (content.consText t) :=
  hrest.text fun c hc => escapesText_escapeChar (ht c hc)

/-- The line of a field is read, whatever follows, … -/
theorem reads_fieldChars {f : String × String} (hspace : bindings.space? [] = none)
    (hname : PlainName f.1.toList) (htext : ∀ c ∈ f.2.toList, Xml.isXmlChar c ∧ c ≠ '\r')
    (hrest : Reads e expand bindings cs content) :
    Reads e expand bindings (fieldChars f ++ cs)
      ⟨fieldNodes f ++ content.nodes, content.ending, content.rest⟩ := by
  have hbody : Reads e expand bindings
      (f.2.toList.flatMap escapeChar ++ (endTagChars f.1.toList ++ cs)) _ :=
    reads_escaped htext (Xml.reads_endTag hname cs)
  have helement : Reads e expand bindings ('<' :: (tagChars f.1.toList [] false ++ _))
      ⟨.element (.plain (String.ofList f.1.toList)) [] _ :: content.nodes, _, _⟩ :=
    hrest.element hname List.nodup_nil (List.forall_mem_nil _) hspace hbody (by simp; omega)
  rw [String.ofList_toList] at helement
  have hline := reads_escaped (t := ['\n', ' ', ' ']) (by decide) helement
  rw [fieldChars_append]
  exact hline

/-- … and so are several. -/
theorem reads_fields (hspace : bindings.space? [] = none)
    (hfields : ∀ f ∈ fields, PlainName f.1.toList ∧ ∀ c ∈ f.2.toList, Xml.isXmlChar c ∧ c ≠ '\r')
    (h : Reads e expand bindings cs content) :
    Reads e expand bindings (fields.flatMap fieldChars ++ cs)
      ⟨fields.flatMap fieldNodes ++ content.nodes, content.ending, content.rest⟩ := by
  induction fields with
  | nil => exact h
  | cons f fields ih =>
    obtain ⟨hname, htext⟩ := hfields f List.mem_cons_self
    have hrest := ih fun g hg => hfields g (List.mem_cons_of_mem _ hg)
    rw [List.flatMap_cons, List.flatMap_cons, List.append_assoc, List.append_assoc]
    exact reads_fieldChars hspace hname htext hrest

theorem children_fieldNodes (name : Xml.Name) (as : List Xml.Attribute)
    (fields : List (String × String)) (nodes : List Xml.Node) :
    (Xml.Element.mk name as (fields.flatMap fieldNodes ++ nodes)).children =
      fields.map field ++ (Xml.Element.mk name as nodes).children := by
  induction fields with
  | nil => rfl
  | cons f fields ih => exact congrArg (field f :: ·) ih

/-- A minimal project object model is read as its root, with an element for each of
    its texts. -/
theorem readDocument_minimalPom
    (h : ∀ f ∈ minimalFields a, ∀ c ∈ f.2.toList, Xml.isXmlChar c ∧ c ≠ '\r') : ∃ root,
      Xml.readDocument (minimalPom a).toUTF8 = .ok root ∧
      root.children = (minimalFields a).map field := by
  have hname : PlainName "project".toList := by decide
  have hnames : ∀ name ∈ (minimalFields a).map (·.1), PlainName name.toList := by
    change ∀ name ∈ ["modelVersion", "groupId", "artifactId", "version"], _
    decide
  rw [List.forall_mem_map] at hnames
  have hcontent : Xml.readRootContent {} .complete .initial ((minimalFields a).flatMap fieldChars ++
      (['\n'] ++ (endTagChars "project".toList ++ ['\n']))) =
        .ok ⟨_, .endTag "project".toList _, ['\n']⟩ :=
    reads_fields rfl (fun f hf => ⟨hnames f hf, h f hf⟩)
      (reads_escaped (t := ['\n']) (by decide) (Xml.reads_endTag hname ['\n'])) _
      (Nat.lt_succ_self _)
  -- From the content outwards: the fields, the root around them, the document.
  have hbody : Xml.readBody .complete false
      ([] ++ '<' :: (tagChars "project".toList [] false ++ _)) = .ok _ :=
    Xml.readBody_of_tag hname (Xml.readRoot_of_written hname (by exact List.nodup_nil)
      (List.forall_mem_nil _) hcontent) (List.forall_mem_nil _) (by decide) false
  have hread := Xml.readDocument_undeclared (c := 'p') (toList_minimalPom a) (by decide)
    (by decide) (by decide)
  rw [toList_minimalPom] at hread
  refine ⟨_, hread.trans (congrArg (Xml.withPosition _) hbody), ?_⟩
  rw [Xml.Content.consText, children_fieldNodes, Xml.children_consText]
  exact List.append_nil _

/-! ## Files -/

theorem xmlChars_minimalFields (hgroup : Legible a.group) (hid : Legible a.id)
    (hversion : Legible a.version) :
    ∀ f ∈ minimalFields a, ∀ c ∈ f.2.toList, Xml.isXmlChar c ∧ c ≠ '\r' := by
  rw [minimalFields, List.forall_mem_cons, List.forall_mem_cons, List.forall_mem_cons,
    List.forall_mem_singleton]
  exact ⟨by decide, hgroup.chars, hid.chars, hversion.chars⟩

/-- A project is loaded from the document in its file. -/
theorem loadProject_of_readFile {p : Path} {s : Session} {bytes : ByteArray}
    (hread : s.workspace.readFile p = .ok bytes) (hroot : Xml.readDocument bytes = .ok root) :
    (loadProject p).runIn s = (.ok (readProject root), s) := by
  simp only [loadProject, Work.runIn_bind, Work.readFile, Work.runIn_inspect, hread, mapError_ok,
    Work.runIn_ofExcept, hroot, Work.runIn_pure]

/-- What is read in the minimal project object model of an artifact, once it has been
    written to a file, is the project of the artifact. -/
theorem loadProject_minimalPom {p : Path} {s s' : Session} (hgroup : Legible a.group)
    (hid : Legible a.id) (hversion : Legible a.version)
    (h : (Work.writeText p (minimalPom a)).runIn s = (.ok (), s')) :
    (loadProject p).runIn s' = (.ok (bareProject a), s') := by
  obtain ⟨root, hroot, hchildren⟩ :=
    readDocument_minimalPom (xmlChars_minimalFields hgroup hid hversion)
  have hread : s'.workspace.readFile p = .ok (minimalPom a).toUTF8 := by
    rw [Work.writeText, Work.runIn_change] at h
    cases hw : s.workspace.writeFile p (minimalPom a).toUTF8 with
    | error e =>
      rw [hw] at h
      cases h
    | ok w' =>
      rw [hw] at h
      cases h
      obtain ⟨l, hl⟩ := Workspace.inspect_writeFile hw
      exact Workspace.readFile_of_inspect hl
  rw [loadProject_of_readFile hread hroot,
    readProject_minimalFields hchildren hgroup hid hversion]

/-- An artifact with special characters, with the end of a CDATA section and with a text
    that is a reference. -/
def special : Artifact := ⟨"a & <b>\t\"c\"", "]]>é", "&amp;📦", "jar", none⟩

theorem loadProject_minimalPom_special : ∃ s' : Session,
    (Legible special.group ∧ Legible special.id ∧ Legible special.version) ∧
    (Work.writeText (.ofString "p.xml") (minimalPom special)).runIn ⟨.holding [], [], [], []⟩ =
      (.ok (), s') ∧
    (loadProject (.ofString "p.xml")).runIn s' = (.ok (bareProject special), s') := by
  generalize hrun : (Work.writeText (.ofString "p.xml") (minimalPom special)).runIn
    ⟨.holding [], [], [], []⟩ = run
  have hok : run.1.toOption = some () := by
    rw [← hrun]
    decide +kernel
  obtain ⟨r | r, s'⟩ := run
  · cases hok
  · have hgroup : Legible special.group := by decide +kernel
    have hid : Legible special.id := by decide +kernel
    have hversion : Legible special.version := by decide +kernel
    exact ⟨s', ⟨hgroup, hid, hversion⟩, rfl, loadProject_minimalPom hgroup hid hversion hrun⟩

end JavaBuild.Pom
