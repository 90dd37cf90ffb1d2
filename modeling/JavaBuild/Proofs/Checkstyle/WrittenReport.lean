import JavaBuild.Proofs.Checkstyle.Run
import JavaBuild.Proofs.Checkstyle.Tally
import JavaBuild.Proofs.Text.Integer
import JavaBuild.Proofs.Xml.Element

/-!
# Written reports

A report tells of files with their violations, each by the attributes of its element
(`Tells`). However a document is written that tells of them, reading it gives all files and
all violations in their order, whatever their texts (`loadReport_of_tells`). There is such a
document for each list of files (`reportDocument`).
-/

namespace JavaBuild.Checkstyle

open List (Forall₂)
open Xml (Attribute Element Name Node)

variable {e root : Element} {v : Violation} {name : String} {vs : List Violation}
  {report : List (String × List Violation)}

/-! ## What a report tells -/

/-- An element tells of a violation. It tells no column if there is none, and no check if this
    has no name. -/
structure TellsViolation (v : Violation) (e : Element) : Prop where
  line : e.attribute? "line" = some (toString v.line)
  column : e.attribute? "column" = v.column.map toString
  severity : e.attribute? "severity" = some v.severity
  message : e.attribute? "message" = some v.message
  source : e.attribute? "source" = if v.source = "" then none else some v.source

/-- An element tells of a file with its violations. -/
structure TellsFile (name : String) (vs : List Violation) (e : Element) : Prop where
  name : e.attribute? "name" = some name
  violations : Forall₂ TellsViolation vs (e.childrenNamed (.plain "error"))

/-- A report tells of files with their violations. -/
def Tells (report : List (String × List Violation)) (root : Element) : Prop :=
  Forall₂ (fun t e => TellsFile t.1 t.2 e) report (root.childrenNamed (.plain "file"))

/-- A number with no more digits than are read. -/
def IsReadable (n : Int) : Prop := (toString n.natAbs).length ≤ Text.maxDigits

instance : DecidablePred IsReadable := fun n =>
  inferInstanceAs (Decidable ((toString n.natAbs).length ≤ Text.maxDigits))

/-- The violations of each file are in this file, at places that can be read. -/
def IsListed (report : List (String × List Violation)) : Prop :=
  ∀ t ∈ report, ∀ v ∈ t.2, v.file = t.1 ∧ IsReadable v.line ∧ ∀ n ∈ v.column, IsReadable n

instance : DecidablePred IsListed := fun report =>
  inferInstanceAs (Decidable
    (∀ t ∈ report, ∀ v ∈ t.2, v.file = t.1 ∧ IsReadable v.line ∧ ∀ n ∈ v.column, IsReadable n))

/-! ## Reading what is told -/

/-- A number is read as it is written, if it is not too long, … -/
theorem readNumber_toString {n : Int} (h : IsReadable n) : readNumber (toString n) = .ok n := by
  rw [readNumber, Text.readInteger_toString h, mapError_ok]

/-- … and so is the column, which may be missing. -/
theorem TellsViolation.readColumn_eq (h : TellsViolation v e)
    (hcolumn : ∀ n ∈ v.column, IsReadable n) : readColumn e = .ok v.column := by
  rw [readColumn, h.column]
  cases hv : v.column with
  | none => rfl
  | some n =>
    have hne : toString n ≠ "" := Text.repr_ne_empty n
    rw [Option.map_some]
    simp only [readNumber_toString (hcolumn n hv)]
    rfl

/-- A violation that an element tells of is read from it. -/
theorem TellsViolation.readViolation_eq (h : TellsViolation v e) (hline : IsReadable v.line)
    (hcolumn : ∀ n ∈ v.column, IsReadable n) : readViolation v.file e = .ok v := by
  have hsource : attributeOr e "source" "" = v.source := by
    rw [attributeOr, h.source]
    split
    · rename_i hempty
      exact hempty.symm
    · rfl
  rw [Checkstyle.readViolation_eq, hsource, attributeOr, h.line, Option.getD_some,
    readNumber_toString hline, h.readColumn_eq hcolumn, attributeOr, h.severity, attributeOr,
    h.message]
  rfl

theorem TellsFile.name_eq (h : TellsFile name vs e) : attributeOr e "name" "" = name := by
  rw [attributeOr, h.name]
  rfl

/-- The violations of a file that an element tells of are read from it. -/
theorem TellsFile.readFile_eq (h : TellsFile name vs e)
    (hvs : ∀ v ∈ vs, v.file = name ∧ IsReadable v.line ∧ ∀ n ∈ v.column, IsReadable n) :
    readFile e = .ok vs := by
  have hread := mapM_eq_ok_of_forall₂ (f := readViolation name) (g := id) h.violations
    fun v hv x hx => by
      obtain ⟨hfile, hline, hcolumn⟩ := hvs v hv
      rw [← hfile]
      exact hx.readViolation_eq hline hcolumn
  rw [readFile, h.name_eq, hread, List.map_id]

/-- What a report tells of is read from it. -/
theorem Tells.ofReport_eq (h : Tells report root) (hlisted : IsListed report) :
    Result.ofReport root = .ok ⟨report.map (·.1), report.flatMap (·.2)⟩ := by
  have hread := mapM_eq_ok_of_forall₂ (f := readFile) (g := (·.2)) h
    fun t ht x hx => hx.readFile_eq (hlisted t ht)
  have hnames : report.map (·.1) =
      (root.childrenNamed (.plain "file")).map (attributeOr · "name" "") := by
    rw [← List.forall₂_eq_eq_eq, List.forall₂_map_left_iff, List.forall₂_map_right_iff]
    exact h.imp fun t x hx => hx.name_eq.symm
  rw [Result.ofReport, hread, hnames, List.flatMap_def]
  rfl

/-! ## Writing reports -/

/-- A character in the value of an attribute. -/
def escapeInAttribute : Char → List Char
  | '\t' => "&#9;".toList
  | '\n' => "&#10;".toList
  | '\r' => "&#13;".toList
  | c => escapeChar c

/-- What is escaped stands for the value in quotes. -/
theorem writesValue_escapeInAttribute {value : List Char} (h : ∀ c ∈ value, Xml.isXmlChar c) :
    Xml.WritesValue value (value.flatMap escapeInAttribute) := by
  induction value with
  | nil => exact .nil
  | cons c value ih =>
    obtain ⟨hc, hvalue⟩ := List.forall_mem_cons.1 h
    have hreference (name : List Char) (hname : Xml.IsReference c name) :
        Xml.WritesValue (c :: value)
          (('&' :: name ++ [';']) ++ value.flatMap escapeInAttribute) := by
      rw [List.append_assoc]
      exact .reference hc hname (ih hvalue)
    rw [List.flatMap_cons]
    unfold escapeInAttribute
    split
    · exact hreference ['#', '9'] (.decimal (by decide) (by decide) rfl)
    · exact hreference ['#', '1', '0'] (.decimal (by decide) (by decide) rfl)
    · exact hreference ['#', '1', '3'] (.decimal (by decide) (by decide) rfl)
    · -- What is no tab and ends no line is escaped as in content.
      rename_i htab hline hreturn
      unfold escapeChar
      split
      · exact hreference "amp".toList (.named rfl)
      · exact hreference "lt".toList (.named rfl)
      · exact hreference "gt".toList (.named rfl)
      · exact hreference "quot".toList (.named rfl)
      · exact hreference ['#', 'x', '2', '7'] (.hexadecimal (by decide) (by decide) rfl)
      · rename_i hamp hlt _ hquot _
        refine .itself hc ⟨hquot, hlt, hamp⟩ (fun hspace => ?_) (ih hvalue)
        simp only [Xml.isXmlSpace, Bool.or_eq_true, beq_iff_eq] at hspace
        rcases hspace with ((hblank | h) | h) | h
        · exact hblank
        · exact absurd h htab
        · exact absurd h hline
        · exact absurd h hreturn

/-- Characters of attributes, each after a blank. -/
def writtenAttributes (as : List (String × String)) : List Char :=
  as.flatMap fun (name, value) =>
    ' ' :: (name.toList ++ '=' :: '"' :: (value.toList.flatMap escapeInAttribute ++ ['"']))

/-- Attributes with plain names. -/
def plainAttributes (as : List (String × String)) : List Attribute :=
  as.map fun (name, value) => ⟨.plain name, value⟩

/-- Attributes of plain names that declare no namespace are written. -/
theorem writesAttributes_of_plain {as : List (String × String)}
    (hnames : ∀ a ∈ as, Xml.PlainName a.1.toList ∧ a.1 ≠ "xmlns")
    (hvalues : ∀ a ∈ as, ∀ c ∈ a.2.toList, Xml.isXmlChar c) :
    Xml.WritesAttributes (plainAttributes as) (writtenAttributes as) := by
  induction as with
  | nil => exact .nil
  | cons a as ih =>
    obtain ⟨name, value⟩ := a
    obtain ⟨⟨hplain, hfree⟩, hnames⟩ := List.forall_mem_cons.1 hnames
    obtain ⟨hvalue, hvalues⟩ := List.forall_mem_cons.1 hvalues
    have hfree : name.toList ≠ "xmlns".toList := fun h => hfree (String.toList_inj.1 h)
    have hwrites := Xml.WritesAttributes.cons (show Xml.IsXmlGap [' '] by decide) hplain
      hfree (writesValue_escapeInAttribute hvalue) (ih hnames hvalues)
    simpa [plainAttributes, writtenAttributes] using hwrites

/-- Nodes of elements that are each on a line of their own. -/
def lineNodes : List Element → List Node
  | [] => Xml.consText ['\n'] []
  | x :: xs => Xml.consText ['\n'] (x.node :: lineNodes xs)

/-- Each on a line of its own. -/
def lineChars (ws : List (List Char)) : List Char := ws.flatMap ('\n' :: ·) ++ ['\n']

/-- An element with elements in it. -/
def listElement (name : String) (as : List (String × String)) (xs : List Element) : Element :=
  ⟨.plain name, plainAttributes as, lineNodes xs⟩

/-- How this is written. -/
def listChars (name : String) (as : List (String × String)) (ws : List (List Char)) : List Char :=
  '<' :: (name.toList ++ (writtenAttributes as ++
    '>' :: (lineChars ws ++ Xml.endTagChars name.toList)))

theorem children_listElement (name : String) (as : List (String × String)) (xs : List Element) :
    (listElement name as xs).children = xs := by
  rw [listElement]
  induction xs with
  | nil => rfl
  | cons x xs ih =>
    rw [lineNodes, Xml.children_consText]
    exact congrArg (x :: ·) ih

/-- Elements are written one on a line. -/
theorem writesContent_lines {xs : List Element} {ws : List (List Char)}
    (h : Forall₂ Xml.WritesElement xs ws) : Xml.WritesContent (lineNodes xs) (lineChars ws) := by
  induction h with
  | nil => exact .layout (by decide)
  | cons hx _ ih =>
    have hcontent := Xml.WritesContent.element (show Xml.IsLayout ['\n'] by decide) hx ih
    simpa [lineNodes, lineChars] using hcontent

/-- The names of attributes are plain, and no two are the same. -/
structure ArePlain (as : List (String × String)) : Prop where
  names : ∀ a ∈ as, Xml.PlainName a.1.toList ∧ a.1 ≠ "xmlns"
  distinct : (as.map (·.1)).Nodup
  values : ∀ a ∈ as, ∀ c ∈ a.2.toList, Xml.isXmlChar c

theorem nodup_plainAttributes {as : List (String × String)} (h : (as.map (·.1)).Nodup) :
    ((plainAttributes as).map (·.name)).Nodup := by
  have hnames : (plainAttributes as).map (·.name) = (as.map (·.1)).map Name.plain := by
    rw [plainAttributes, List.map_map, List.map_map]
    rfl
  rw [hnames]
  exact List.Pairwise.map _ (fun _ _ hne heq => hne (congrArg Name.base heq)) h

/-- So is an element with attributes and such a content. -/
theorem writesElement_list {as : List (String × String)} {xs : List Element}
    {ws : List (List Char)} (hname : Xml.PlainName name.toList) (has : ArePlain as)
    (h : Forall₂ Xml.WritesElement xs ws) :
    Xml.WritesElement (listElement name as xs) (listChars name as ws) := by
  have hspace : ∀ c ∈ [], Xml.isXmlSpace c := List.forall_mem_nil _
  have helement := Xml.WritesElement.opened hname
    (writesAttributes_of_plain has.names has.values) (nodup_plainAttributes has.distinct)
    hspace (writesContent_lines h)
  rwa [String.ofList_toList] at helement

/-- The attributes that tell of a violation. -/
def violationAttributes (v : Violation) : List (String × String) :=
  ("line", toString v.line) :: (v.column.toList.map fun n => ("column", toString n)) ++
    [("severity", v.severity), ("message", v.message)] ++
    if v.source = "" then [] else [("source", v.source)]

/-- The element that tells of a violation. -/
def violationElement (v : Violation) : Element :=
  ⟨.plain "error", plainAttributes (violationAttributes v), []⟩

/-- How this is written. -/
def violationChars (v : Violation) : List Char :=
  '<' :: ("error".toList ++ (writtenAttributes (violationAttributes v) ++ ['/', '>']))

/-- All characters of the texts of a violation may stand in a document. -/
def IsWritable (v : Violation) : Prop :=
  ∀ s ∈ [v.severity, v.message, v.source], ∀ c ∈ s.toList, Xml.isXmlChar c

instance : DecidablePred IsWritable := fun v =>
  inferInstanceAs (Decidable
    (∀ s ∈ [v.severity, v.message, v.source], ∀ c ∈ s.toList, Xml.isXmlChar c))

theorem isXmlChar_of_mem_repr {n : Int} {c : Char} (h : c ∈ n.repr.toList) : Xml.isXmlChar c := by
  rcases Text.isDigit_of_mem_repr h with rfl | hc
  · decide
  · obtain ⟨hlow, hhigh⟩ := Text.toNat_of_isDigit hc
    rw [Xml.isXmlChar, if_neg (by omega), Bool.and_eq_true, bne_iff_ne, bne_iff_ne]
    omega

/-- The attributes of a violation can be written if its texts can. -/
theorem arePlain_violationAttributes (h : IsWritable v) : ArePlain (violationAttributes v) := by
  have hplain : ∀ name ∈ ["line", "column", "severity", "message", "source"],
      Xml.PlainName name.toList ∧ name ≠ "xmlns" := by decide
  -- Every value is a number or a text of the violation.
  have hmem : ∀ a ∈ violationAttributes v,
      a.1 ∈ ["line", "column", "severity", "message", "source"] ∧
        ((∃ n : Int, a.2 = n.repr) ∨ a.2 ∈ [v.severity, v.message, v.source]) := by
    intro a ha
    simp only [violationAttributes, List.mem_append, List.mem_cons, List.mem_map, Option.mem_toList,
      List.not_mem_nil, or_false] at ha
    rcases ha with ((rfl | ⟨n, -, rfl⟩) | rfl | rfl) | ha
    · exact ⟨by simp, .inl ⟨v.line, rfl⟩⟩
    · exact ⟨by simp, .inl ⟨n, rfl⟩⟩
    · simp
    · simp
    · split at ha
      · exact absurd ha List.not_mem_nil
      · rw [List.mem_singleton.1 ha]
        simp
  refine ⟨fun a ha => hplain _ (hmem a ha).1, ?_, fun a ha => ?_⟩
  · rw [violationAttributes]
    cases v.column <;> by_cases hs : v.source = "" <;> simp [hs]
  · rcases (hmem a ha).2 with ⟨n, hn⟩ | hs
    · rw [hn]
      exact fun c => isXmlChar_of_mem_repr
    · exact h _ hs

/-- An attribute is found by its name. -/
theorem attribute?_plain (name : Name) (as : List (String × String)) (content : List Node)
    (base : String) :
    (Element.mk name (plainAttributes as) content).attribute? base = as.lookup base := by
  induction as with
  | nil => rfl
  | cons a as ih =>
    obtain ⟨key, value⟩ := a
    have hname : (Name.plain key == Name.plain base) = (base == key) := by
      rw [Bool.eq_iff_iff, beq_iff_eq, beq_iff_eq, Name.plain, Name.plain, Name.mk.injEq]
      exact ⟨fun h => h.2.symm, fun h => ⟨rfl, h.symm⟩⟩
    rw [Element.attribute?] at ih ⊢
    rw [plainAttributes, List.map_cons, List.find?_cons, List.lookup_cons, hname, ← plainAttributes]
    cases base == key with
    | true => rfl
    | false => exact ih

/-- The element of a violation tells of it. -/
theorem tellsViolation_violationElement (v : Violation) :
    TellsViolation v (violationElement v) := by
  have hlookup (base : String) :
      (violationElement v).attribute? base = (violationAttributes v).lookup base :=
    attribute?_plain _ _ _ base
  constructor
  all_goals
    rw [hlookup, violationAttributes]
    cases v.column <;> by_cases hs : v.source = "" <;> simp [hs, List.lookup_cons]

/-- A report in a document. -/
def reportDocument (report : List (String × List Violation)) : String :=
  String.ofList (Xml.declaration ++ '\n' :: (listChars "checkstyle" [] (report.map fun t =>
    listChars "file" [("name", t.1)] (t.2.map violationChars)) ++ ['\n']))

/-- All characters of the texts of a report may stand in a document. -/
def AreWritable (report : List (String × List Violation)) : Prop :=
  ∀ t ∈ report, (∀ c ∈ t.1.toList, Xml.isXmlChar c) ∧ ∀ v ∈ t.2, IsWritable v

instance : DecidablePred AreWritable := fun report =>
  inferInstanceAs (Decidable
    (∀ t ∈ report, (∀ c ∈ t.1.toList, Xml.isXmlChar c) ∧ ∀ v ∈ t.2, IsWritable v))

/-- The element that tells of a file. -/
def fileElement (t : String × List Violation) : Element :=
  listElement "file" [("name", t.1)] (t.2.map violationElement)

/-- The element that tells of all files. -/
def reportElement (report : List (String × List Violation)) : Element :=
  listElement "checkstyle" [] (report.map fileElement)

/-- All elements in an element are found by the name that all of them have. -/
theorem childrenNamed_listElement {α : Type} (name child : String) (as : List (String × String))
    {element : α → Element} (h : ∀ a, (element a).name = .plain child) (items : List α) :
    (listElement name as (items.map element)).childrenNamed (.plain child) =
      items.map element := by
  rw [Element.childrenNamed, children_listElement, List.filter_eq_self, List.forall_mem_map]
  exact fun a _ => beq_iff_eq.2 (h a)

/-- The report tells of all violations. -/
theorem tells_reportElement (report : List (String × List Violation)) :
    Tells report (reportElement report) := by
  have hfile (t : String × List Violation) : TellsFile t.1 t.2 (fileElement t) := by
    refine ⟨attribute?_plain _ [("name", t.1)] _ "name", ?_⟩
    rw [fileElement, childrenNamed_listElement "file" "error" _ (fun v => rfl),
      List.forall₂_map_right_iff, List.forall₂_same]
    exact fun v _ => tellsViolation_violationElement v
  rw [Tells, reportElement, childrenNamed_listElement "checkstyle" "file" _ (fun t => rfl),
    List.forall₂_map_right_iff, List.forall₂_same]
  exact fun t _ => hfile t

theorem writesElement_violation (h : IsWritable v) :
    Xml.WritesElement (violationElement v) (violationChars v) := by
  have has := arePlain_violationAttributes h
  have hname : Xml.PlainName "error".toList := by decide
  have hspace : ∀ c ∈ [], Xml.isXmlSpace c := List.forall_mem_nil _
  have helement := Xml.WritesElement.closed hname
    (writesAttributes_of_plain has.names has.values) (nodup_plainAttributes has.distinct) hspace
  rwa [String.ofList_toList] at helement

/-- The report is written as a document. -/
theorem writesDocument_report (h : AreWritable report) :
    Xml.WritesDocument (reportElement report) (reportDocument report).toList := by
  have hfile : ∀ t ∈ report, Xml.WritesElement (fileElement t)
      (listChars "file" [("name", t.1)] (t.2.map violationChars)) := by
    intro t ht
    obtain ⟨hname, hvs⟩ := h t ht
    refine writesElement_list (by decide) ⟨by simp; decide, by simp, by simpa using hname⟩ ?_
    rw [List.forall₂_map_left_iff, List.forall₂_map_right_iff, List.forall₂_same]
    exact fun v hv => writesElement_violation (hvs v hv)
  have hroot : Xml.WritesElement (reportElement report) (listChars "checkstyle" []
      (report.map fun t => listChars "file" [("name", t.1)] (t.2.map violationChars))) := by
    refine writesElement_list (by decide) ⟨by simp, by simp, by simp⟩ ?_
    rw [List.forall₂_map_left_iff, List.forall₂_map_right_iff, List.forall₂_same]
    exact hfile
  rw [reportDocument, String.toList_ofList]
  have hspace : ∀ c ∈ ['\n'], Xml.isXmlSpace c := by decide
  exact .declared hspace hroot hspace

/-- Whichever way a report is written, what it tells of is read: the files in their order,
    and all of their violations in their order, as they are. -/
theorem loadReport_of_tells (hlisted : IsListed report) (hwritable : AreWritable report)
    (data : Path) :
    (∀ (root : Element) (document : String) (s : Session), Tells report root →
      Xml.WritesDocument root document.toList →
      s.workspace.readFile data = .ok document.toUTF8 →
      (loadReport data).runIn s = (.ok ⟨report.map (·.1), report.flatMap (·.2)⟩, s)) ∧
    ∃ root, Tells report root ∧ Xml.WritesDocument root (reportDocument report).toList := by
  refine ⟨fun root document s htells hwrites hread => ?_,
    reportElement report, tells_reportElement report, writesDocument_report hwritable⟩
  rw [loadReport_of_readFile hread, Result.ofBytes, Xml.readDocument_of_writes hwrites]
  exact congrArg (·, s) (htells.ofReport_eq hlisted)

/-- A report with a file that is there twice, and with special characters and white space in
    its texts. -/
def sampleReport : List (String × List Violation) :=
  [("<A>.java", [⟨"<A>.java", -3, none, "error", "\"a\"\t&\r\n'b'", ""⟩,
      ⟨"<A>.java", 10, some 0, "", " &amp; ", "Check"⟩]),
    ("B.java", []), ("<A>.java", [⟨"<A>.java", 0, none, "warning", "", ""⟩])]

/-- The sample in a file. -/
def sampleReportSession : Session :=
  ⟨.holding [("report.xml", reportDocument sampleReport)], [], [], []⟩

theorem loadReport_sampleReport : ∃ root,
    IsListed sampleReport ∧ AreWritable sampleReport ∧ Tells sampleReport root ∧
    Xml.WritesDocument root (reportDocument sampleReport).toList ∧
    sampleReportSession.workspace.readFile (.ofString "report.xml") =
      .ok (reportDocument sampleReport).toUTF8 ∧
    (loadReport (.ofString "report.xml")).runIn sampleReportSession =
      (.ok ⟨["<A>.java", "B.java", "<A>.java"],
        [⟨"<A>.java", -3, none, "error", "\"a\"\t&\r\n'b'", ""⟩,
          ⟨"<A>.java", 10, some 0, "", " &amp; ", "Check"⟩,
          ⟨"<A>.java", 0, none, "warning", "", ""⟩]⟩, sampleReportSession) := by
  have hlisted : IsListed sampleReport := by decide
  have hwritable : AreWritable sampleReport := by decide
  have hread : sampleReportSession.workspace.readFile (.ofString "report.xml") =
      .ok (reportDocument sampleReport).toUTF8 := rfl
  obtain ⟨hall, root, htells, hwrites⟩ :=
    loadReport_of_tells hlisted hwritable (.ofString "report.xml")
  exact ⟨root, hlisted, hwritable, htells, hwrites, hread,
    hall root _ sampleReportSession htells hwrites hread⟩

end JavaBuild.Checkstyle
