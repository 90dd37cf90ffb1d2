import JavaBuild.Checkstyle.Summary
import JavaBuild.Proofs.Dictionary
import JavaBuild.Proofs.Markup
import JavaBuild.Proofs.Text.Integer

/-!
# What a summary tells

Texts are escaped so that they begin and end no tag, and are read again as they are
(`unescape_escape`). The summary of a result is thus read as the pieces that it is written
of (`Result.summary_pieces`): its tags are those of tables with so many rows, and its
headings and cells tell the files with their violations. Nothing of these is lost
(`byFile_of_items`), and no text changes a tag (`Result.summary_faithful`).
-/

namespace JavaBuild.Checkstyle

open Markup (Piece Item)

variable {c : Char} {cs : List Char}

/-! ## Escaped texts -/

/-- A character that has no meaning in markup is written as itself. -/
theorem escapeChar_of_ne (hamp : c ≠ '&') (hlt : c ≠ '<') (hgt : c ≠ '>') (hquot : c ≠ '"')
    (hapos : c ≠ '\'') : escapeChar c = [c] := by
  unfold escapeChar
  split
  · exact absurd rfl hamp
  · exact absurd rfl hlt
  · exact absurd rfl hgt
  · exact absurd rfl hquot
  · exact absurd rfl hapos
  · rfl

/-- What is written for a character is read as this character. -/
theorem unescape_escapeChar (c : Char) (cs : List Char) :
    Markup.unescape (escapeChar c ++ cs) = c :: Markup.unescape cs := by
  by_cases hamp : c = '&'
  · subst hamp; rfl
  by_cases hlt : c = '<'
  · subst hlt; rfl
  by_cases hgt : c = '>'
  · subst hgt; rfl
  by_cases hquot : c = '"'
  · subst hquot; rfl
  by_cases hapos : c = '\''
  · subst hapos; rfl
  rw [escapeChar_of_ne hamp hlt hgt hquot hapos]
  exact Markup.unescape_cons hamp cs

/-- Escaped texts are read as they were. -/
theorem unescape_escape (s : String) :
    String.ofList (Markup.unescape (escape s).toList) = s := by
  have hread (cs : List Char) : Markup.unescape (cs.flatMap escapeChar) = cs := by
    induction cs with
    | nil => rfl
    | cons c cs ih => rw [List.flatMap_cons, unescape_escapeChar, ih]
  rw [escape, String.toList_ofList, hread, String.ofList_toList]

/-- No tag begins in what is written for a character. -/
theorem lt_not_mem_escapeChar (c : Char) : '<' ∉ escapeChar c := by
  by_cases hamp : c = '&'
  · subst hamp; decide
  by_cases hlt : c = '<'
  · subst hlt; decide
  by_cases hgt : c = '>'
  · subst hgt; decide
  by_cases hquot : c = '"'
  · subst hquot; decide
  by_cases hapos : c = '\''
  · subst hapos; decide
  rw [escapeChar_of_ne hamp hlt hgt hquot hapos, List.mem_singleton]
  exact Ne.symm hlt

/-- No tag begins in an escaped text. -/
theorem lt_not_mem_escape (s : String) : '<' ∉ (escape s).toList := by
  rw [escape, String.toList_ofList, List.mem_flatMap]
  rintro ⟨c, -, hc⟩
  exact lt_not_mem_escapeChar c hc

/-- Numbers are written as they are. -/
theorem escape_repr (n : Int) : escape n.repr = n.repr := by
  have hself (cs : List Char) (h : ∀ c ∈ cs, c = '-' ∨ c.isDigit) :
      cs.flatMap escapeChar = cs := by
    induction cs with
    | nil => rfl
    | cons c cs ih =>
      obtain ⟨hc, hcs⟩ := List.forall_mem_cons.1 h
      have hne (d : Char) (hd : d.isDigit = false) (hm : d ≠ '-') : c ≠ d := by
        rintro rfl
        rw [hd] at hc
        exact hc.elim hm Bool.false_ne_true
      rw [List.flatMap_cons, ih hcs, escapeChar_of_ne (hne '&' rfl (by decide))
        (hne '<' rfl (by decide)) (hne '>' rfl (by decide)) (hne '"' rfl (by decide))
        (hne '\'' rfl (by decide)), List.singleton_append]
  rw [escape, hself _ fun c => Text.isDigit_of_mem_repr, String.ofList_toList]

/-! ## The pieces of a summary -/

/-- What the cells of a violation show. -/
def Violation.cells (v : Violation) : List String :=
  [v.severity, toString v.line, (v.column.map toString).getD "", v.message, v.source]

/-- The pieces of an element with a text. -/
def elementPieces (name text : String) : List Piece :=
  [⟨name.toList, (escape text).toList⟩, ⟨("/" ++ name).toList, []⟩]

/-- The pieces of the row of a violation. -/
def rowPieces (v : Violation) : List Piece :=
  ⟨"tr".toList, []⟩ :: v.cells.flatMap (elementPieces "td") ++ [⟨"/tr".toList, ['\n']⟩]

/-- The pieces in front of the rows of a table. -/
def headerPieces : List Piece :=
  [⟨"table".toList, ['\n']⟩, ⟨"tr".toList, []⟩] ++
    ["Severity", "Line", "Column", "Message", "Check"].flatMap (elementPieces "th") ++
    [⟨"/tr".toList, ['\n']⟩]

/-- The pieces of the heading and the table of a file. -/
def tablePieces (file : String) (violations : List Violation) : List Piece :=
  [⟨"h2".toList, (escape file).toList⟩, ⟨"/h2".toList, ['\n']⟩] ++ headerPieces ++
    violations.flatMap rowPieces ++ [⟨"/table".toList, ['\n']⟩]

/-- The pieces in front of the tables, on a page with this sentence. -/
def openingPieces (sentence : String) : List Piece :=
  [⟨"!DOCTYPE html".toList, ['\n']⟩, ⟨"html".toList, ['\n']⟩, ⟨"head".toList, []⟩,
    ⟨"meta charset=\"utf-8\"".toList, []⟩, ⟨"title".toList, "Checkstyle report".toList⟩,
    ⟨"/title".toList, []⟩, ⟨"/head".toList, ['\n']⟩, ⟨"body".toList, ['\n']⟩,
    ⟨"h1".toList, "Checkstyle report".toList⟩, ⟨"/h1".toList, ['\n']⟩,
    ⟨"p".toList, sentence.toList⟩, ⟨"/p".toList, ['\n']⟩]

/-- The pieces behind the tables. -/
def closingPieces : List Piece := [⟨"/body".toList, ['\n']⟩, ⟨"/html".toList, ['\n']⟩]

/-- The sentence that tells the numbers of a result. -/
def Result.sentence (r : Result) : String :=
  s!"{r.files.length} files checked, {r.errors} errors, {r.warnings} warnings."

/-- The pieces of a summary. -/
def Result.summaryPieces (r : Result) : List Piece :=
  openingPieces r.sentence ++ r.byFile.flatMap (fun (file, vs) => tablePieces file vs) ++
    closingPieces

/-! ## Writing the pieces -/

/-- Lines as they are written. -/
def written (lines : List String) : List Char := lines.flatMap fun line => (line ++ "\n").toList

theorem toString_string (s : String) : toString s = s := rfl

/-- A row is written of its pieces. -/
theorem row_toList (v : Violation) :
    (v.row ++ "\n").toList = (rowPieces v).flatMap Piece.write := by
  have hempty : escape "" = "" := rfl
  cases hcolumn : v.column with
  | none =>
    simp [Violation.row, rowPieces, Violation.cells, elementPieces, Piece.write, toString_string,
      escape_repr, hcolumn, hempty]
  | some n =>
    simp [Violation.row, rowPieces, Violation.cells, elementPieces, Piece.write, toString_string,
      escape_repr, hcolumn]

/-- The heading and the table of a file are written of their pieces. -/
theorem written_tableLines (file : String) (vs : List Violation) :
    written (tableLines file vs) = (tablePieces file vs).flatMap Piece.write := by
  have hheading : (s!"<h2>{escape file}</h2>" ++ "\n").toList =
      [⟨"h2".toList, (escape file).toList⟩, ⟨"/h2".toList, ['\n']⟩].flatMap Piece.write := by
    simp [Piece.write, toString_string]
  have hheader : written ["<table>",
      "<tr><th>Severity</th><th>Line</th><th>Column</th><th>Message</th><th>Check</th></tr>"] =
      headerPieces.flatMap Piece.write := by decide
  have hrows : written (vs.map Violation.row) = (vs.flatMap rowPieces).flatMap Piece.write := by
    rw [written, List.flatMap_map, List.flatMap_assoc]
    exact congrArg (List.flatMap · vs) (funext row_toList)
  rw [tablePieces, List.flatMap_append, List.flatMap_append, List.flatMap_append, ← hheading,
    ← hheader, ← hrows]
  simp [tableLines, written, Piece.write]

/-- A summary is written of its pieces. -/
theorem Result.summary_toList (r : Result) :
    r.summary.toList = r.summaryPieces.flatMap Piece.write := by
  -- The parts of the page are turned into pieces one after another.
  have hjoin (lines : List String) :
      (String.join (lines.map (· ++ "\n"))).toList = written lines := by
    simp [written, List.flatMap_map]
  have hsentence :
      s!"<p>{r.files.length} files checked, {r.errors} errors, {r.warnings} warnings.</p>" =
        s!"<p>{r.sentence}</p>" := by
    rw [← String.toList_inj]
    simp [Result.sentence, toString_string]
  have hopening : written ["<!DOCTYPE html>", "<html>",
      "<head><meta charset=\"utf-8\"><title>Checkstyle report</title></head>", "<body>",
      "<h1>Checkstyle report</h1>", s!"<p>{r.sentence}</p>"] =
      (openingPieces r.sentence).flatMap Piece.write := by
    simp [written, openingPieces, Piece.write, toString_string]
  have htables : written (r.byFile.flatMap fun (file, vs) => tableLines file vs) =
      (r.byFile.flatMap fun (file, vs) => tablePieces file vs).flatMap Piece.write := by
    rw [written, List.flatMap_assoc, List.flatMap_assoc]
    exact congrArg (List.flatMap · r.byFile) (funext fun t => written_tableLines t.1 t.2)
  have hclosing : written ["</body>", "</html>"] = closingPieces.flatMap Piece.write := by decide
  rw [Result.summary, hjoin, Result.summaryPieces, List.flatMap_append, List.flatMap_append,
    ← hopening, ← htables, ← hclosing, Result.summaryLines, hsentence, written,
    List.flatMap_append, List.flatMap_append]
  rfl

/-! ## Reading the pieces -/

theorem isPlain_elementPieces {name : String} (h : '>' ∉ name.toList) (text : String) :
    ∀ p ∈ elementPieces name text, p.IsPlain := by
  simp [elementPieces, Piece.IsPlain, h, lt_not_mem_escape]

theorem isPlain_tablePieces (file : String) (vs : List Violation) :
    ∀ p ∈ tablePieces file vs, p.IsPlain := by
  have hheader : ∀ p ∈ headerPieces, p.IsPlain := by decide
  have hrow (v : Violation) : ∀ p ∈ rowPieces v, p.IsPlain := by
    simp only [rowPieces, List.mem_append, List.mem_cons, List.mem_flatMap, List.not_mem_nil,
      or_false]
    rintro p ((rfl | ⟨text, -, hp⟩) | rfl)
    · decide
    · exact isPlain_elementPieces (by decide) text p hp
    · decide
  simp only [tablePieces, List.mem_append, List.mem_cons, List.mem_flatMap, List.not_mem_nil,
    or_false]
  rintro p ((((rfl | rfl) | hp) | ⟨v, -, hp⟩) | rfl)
  · have hname : '>' ∉ "h2".toList := by decide
    exact ⟨hname, lt_not_mem_escape file⟩
  · decide
  · exact hheader p hp
  · exact hrow v p hp
  · decide

/-- No tag begins in the sentence. -/
theorem Result.lt_not_mem_sentence (r : Result) : '<' ∉ r.sentence.toList := by
  have hnumber (n : Nat) : '<' ∉ n.repr.toList := fun h => by
    rw [Nat.repr_eq_ofList_toDigits, String.toList_ofList] at h
    exact absurd (Text.isDigit_of_mem_toDigits h) (by decide)
  have hlength := hnumber r.files.length
  have herrors := hnumber r.errors
  have hwarnings := hnumber r.warnings
  simp_all [Result.sentence, toString_string]

theorem Result.isPlain_summaryPieces (r : Result) : ∀ p ∈ r.summaryPieces, p.IsPlain := by
  have hopening : ∀ p ∈ openingPieces r.sentence, p.IsPlain := by
    have h := r.lt_not_mem_sentence
    simp [openingPieces, Piece.IsPlain, h]
  have hclosing : ∀ p ∈ closingPieces, p.IsPlain := by decide
  simp only [Result.summaryPieces, List.mem_append, List.mem_flatMap]
  rintro p ((hp | ⟨⟨file, vs⟩, -, hp⟩) | hp)
  · exact hopening p hp
  · exact isPlain_tablePieces file vs p hp
  · exact hclosing p hp

/-- A summary is read as its pieces. -/
theorem Result.pieces_summary (r : Result) : Markup.pieces r.summary = r.summaryPieces := by
  rw [Markup.pieces, r.summary_toList, Markup.splitText_write r.isPlain_summaryPieces]

/-! ## Tags -/

/-- The tags of an element without elements in it. -/
def elementTags (name : String) : List String := [name, "/" ++ name]

/-- The tags of the row of a violation. -/
def rowTags : List String :=
  ["tr"] ++ (List.replicate 5 (elementTags "td")).flatten ++ ["/tr"]

/-- The tags of the heading and the table of a file with so many violations. -/
def tableTags (n : Nat) : List String :=
  elementTags "h2" ++ ["table", "tr"] ++ (List.replicate 5 (elementTags "th")).flatten ++
    ["/tr"] ++ (List.replicate n rowTags).flatten ++ ["/table"]

/-- The tags of the page for files with so many violations. -/
def pageTags (counts : List Nat) : List String :=
  ["!DOCTYPE html", "html", "head", "meta charset=\"utf-8\""] ++ elementTags "title" ++
    ["/head", "body"] ++ elementTags "h1" ++ elementTags "p" ++ counts.flatMap tableTags ++
    ["/body", "/html"]

theorem tags_tablePieces (file : String) (vs : List Violation) :
    (tablePieces file vs).map (fun p => String.ofList p.tag) = tableTags vs.length := by
  have hrows : (vs.flatMap rowPieces).map (fun p => String.ofList p.tag) =
      (List.replicate vs.length rowTags).flatten := by
    induction vs with
    | nil => rfl
    | cons v vs ih =>
      rw [List.flatMap_cons, List.map_append, ih, List.length_cons, List.replicate_succ,
        List.flatten_cons]
      rfl
  rw [tablePieces, List.map_append, List.map_append, List.map_append, hrows]
  rfl

theorem Result.tags_summary (r : Result) :
    Markup.tags r.summary = pageTags (r.byFile.map fun (_, vs) => vs.length) := by
  have htables : (r.byFile.flatMap fun (file, vs) => tablePieces file vs).map
      (fun p => String.ofList p.tag) =
      (r.byFile.map fun (_, vs) => vs.length).flatMap tableTags := by
    rw [List.map_flatMap, List.flatMap_map]
    exact congrArg (List.flatMap · r.byFile) (funext fun (file, vs) => tags_tablePieces file vs)
  rw [Markup.tags, r.pieces_summary, Result.summaryPieces, List.map_append, List.map_append,
    htables]
  rfl

/-! ## Headings and cells -/

/-- What a violation shows in its row. -/
def rowItems (v : Violation) : List Item := v.cells.map .cell

/-- What the heading and the table of a file show. -/
def tableItems (file : String) (violations : List Violation) : List Item :=
  .heading file :: violations.flatMap rowItems

theorem items_cells (texts : List String) :
    (texts.flatMap (elementPieces "td")).filterMap Piece.item? = texts.map .cell := by
  induction texts with
  | nil => rfl
  | cons text texts ih =>
    have hcell : (elementPieces "td" text).filterMap Piece.item? = [.cell text] := by
      simp [elementPieces, Piece.item?, unescape_escape]
    rw [List.flatMap_cons, List.filterMap_append, hcell, ih]
    rfl

theorem items_tablePieces (file : String) (vs : List Violation) :
    (tablePieces file vs).filterMap Piece.item? = tableItems file vs := by
  have hheading : [⟨"h2".toList, (escape file).toList⟩, ⟨"/h2".toList, ['\n']⟩].filterMap
      Piece.item? = [.heading file] := by
    simp [Piece.item?, unescape_escape]
  have hheader : headerPieces.filterMap Piece.item? = [] := by decide
  have hrow (v : Violation) : (rowPieces v).filterMap Piece.item? = rowItems v := by
    rw [rowPieces, List.filterMap_append, List.filterMap_cons, items_cells]
    exact List.append_nil _
  rw [tablePieces, List.filterMap_append, List.filterMap_append, List.filterMap_append, hheading,
    hheader, List.filterMap_flatMap, funext hrow]
  exact List.append_nil _

theorem Result.items_summary (r : Result) :
    Markup.items r.summary = r.byFile.flatMap fun (file, vs) => tableItems file vs := by
  have hopening : (openingPieces r.sentence).filterMap Piece.item? = [] := rfl
  rw [Markup.items, r.pieces_summary, Result.summaryPieces, List.filterMap_append,
    List.filterMap_append, hopening, List.filterMap_flatMap]
  have hclosing : closingPieces.filterMap Piece.item? = [] := by decide
  rw [hclosing, List.append_nil, List.nil_append]
  exact congrArg (List.flatMap · r.byFile) (funext fun (file, vs) => items_tablePieces file vs)

/-- The violations of a file are told by their cells. -/
theorem cells_injective {v v' : Violation} (hfile : v.file = v'.file)
    (h : v.cells = v'.cells) : v = v' := by
  obtain ⟨file, line, column, severity, message, source⟩ := v
  obtain ⟨file', line', column', severity', message', source'⟩ := v'
  simp only [Violation.cells, List.cons.injEq] at h
  obtain ⟨rfl, hline, hcolumn, rfl, rfl, -⟩ := h
  have hline : line = line' := Text.repr_injective hline
  have hcolumn : column = column' := by
    cases column with
    | none =>
      cases column' with
      | none => rfl
      | some n => exact absurd hcolumn.symm (Text.repr_ne_empty n)
    | some m =>
      cases column' with
      | none => exact absurd hcolumn (Text.repr_ne_empty m)
      | some n => exact congrArg some (Text.repr_injective hcolumn)
  subst hfile hline hcolumn
  rfl

/-- The rows of a table are told by what they show, up to something other than a cell. -/
theorem eq_of_rowItems {file : String} {vs vs' : List Violation} {rest rest' : List Item}
    (hvs : ∀ v ∈ vs, v.file = file) (hvs' : ∀ v ∈ vs', v.file = file)
    (hrest : ∀ text, rest.head? ≠ some (.cell text))
    (hrest' : ∀ text, rest'.head? ≠ some (.cell text))
    (h : vs.flatMap rowItems ++ rest = vs'.flatMap rowItems ++ rest') :
    vs = vs' ∧ rest = rest' := by
  induction vs generalizing vs' with
  | nil =>
    cases vs' with
    | nil => exact ⟨rfl, h⟩
    | cons v' vs' => exact absurd (congrArg List.head? h) (hrest v'.severity)
  | cons v vs ih =>
    cases vs' with
    | nil => exact absurd (congrArg List.head? h).symm (hrest' v.severity)
    | cons v' vs' =>
      obtain ⟨hv, hvs⟩ := List.forall_mem_cons.1 hvs
      obtain ⟨hv', hvs'⟩ := List.forall_mem_cons.1 hvs'
      rw [List.flatMap_cons, List.flatMap_cons, List.append_assoc, List.append_assoc] at h
      obtain ⟨hcells, htail⟩ := List.append_inj h rfl
      have hinj : Function.Injective Item.cell := fun _ _ => Item.cell.inj
      have heq : v = v' := cells_injective (hv.trans hv'.symm) (hinj.list_map hcells)
      obtain ⟨rfl, hrest⟩ := ih hvs hvs' htail
      exact ⟨by rw [heq], hrest⟩

/-- Files with their violations are told by what their headings and tables show. -/
theorem eq_of_tableItems {tables tables' : List (String × List Violation)}
    (hfile : ∀ t ∈ tables, ∀ v ∈ t.2, v.file = t.1)
    (hfile' : ∀ t ∈ tables', ∀ v ∈ t.2, v.file = t.1)
    (h : tables.flatMap (fun (file, vs) => tableItems file vs) =
      tables'.flatMap fun (file, vs) => tableItems file vs) : tables = tables' := by
  -- After a table comes a heading, or nothing.
  have hhead (ts : List (String × List Violation)) (text : String) :
      (ts.flatMap fun (file, vs) => tableItems file vs).head? ≠ some (.cell text) := by
    cases ts <;> simp [tableItems]
  induction tables generalizing tables' with
  | nil =>
    cases tables' with
    | nil => rfl
    | cons t' ts' => exact absurd h (by simp [tableItems])
  | cons t ts ih =>
    obtain ⟨file, vs⟩ := t
    cases tables' with
    | nil => exact absurd h (by simp [tableItems])
    | cons t' ts' =>
      obtain ⟨file', vs'⟩ := t'
      obtain ⟨hvs, hts⟩ := List.forall_mem_cons.1 hfile
      obtain ⟨hvs', hts'⟩ := List.forall_mem_cons.1 hfile'
      rw [List.flatMap_cons, List.flatMap_cons] at h
      change Item.heading file :: (vs.flatMap rowItems ++ _) =
        Item.heading file' :: (vs'.flatMap rowItems ++ _) at h
      rw [List.cons.injEq, Item.heading.injEq] at h
      obtain ⟨rfl, hrows⟩ := h
      obtain ⟨rfl, htail⟩ := eq_of_rowItems hvs hvs' (hhead ts) (hhead ts') hrows
      rw [ih hts hts' htail]

/-! ## The files with violations -/

/-- The files with violations are in the order in which they are first found, each with
    all of its violations in their order. -/
theorem Result.byFile_eq (r : Result) : r.byFile = (r.violations.map (·.file)).eraseDups.map
    fun file => (file, r.violations.filter fun v => v.file = file) := by
  have hmade (file : String) : made Violation.file [] (fun v vs => vs ++ [v]) r.violations file =
      r.violations.filter fun v => v.file = file := by
    rw [made, List.foldl_append_eq_append, List.nil_append, ← List.flatMap_def,
      List.flatMap_singleton']
  rw [Result.byFile, entries_foldl_update, eraseDups_eq_firsts, firsts_map, List.map_map]
  refine List.map_congr_left fun v _ => ?_
  rw [hmade]
  rfl

/-- All violations of a file are in this file. -/
theorem Result.file_of_mem_byFile {r : Result} {t : String × List Violation}
    (h : t ∈ r.byFile) : ∀ v ∈ t.2, v.file = t.1 := by
  rw [r.byFile_eq] at h
  obtain ⟨file, -, rfl⟩ := List.mem_map.1 h
  intro v hv
  exact of_decide_eq_true (List.mem_filter.1 hv).2

/-- The tags of a summary depend only on the numbers of files with violations and of the
    violations of each. Its headings and cells show each file with violations once, as it is
    first found, followed by its violations, whatever their texts. No two results whose files
    or violations differ have the same summary. -/
theorem Result.summary_faithful (r : Result) :
    Markup.tags r.summary = pageTags (r.byFile.map fun (_, vs) => vs.length) ∧
    Markup.items r.summary = r.byFile.flatMap (fun (file, vs) => tableItems file vs) ∧
    r.byFile = (r.violations.map (·.file)).eraseDups.map
      (fun file => (file, r.violations.filter fun v => v.file = file)) ∧
    ∀ r' : Result, r'.byFile ≠ r.byFile → r'.summary ≠ r.summary := by
  refine ⟨r.tags_summary, r.items_summary, r.byFile_eq, fun r' hne h => hne ?_⟩
  have hitems : r'.byFile.flatMap (fun (file, vs) => tableItems file vs) =
      r.byFile.flatMap fun (file, vs) => tableItems file vs := by
    rw [← r'.items_summary, ← r.items_summary, h]
  exact eq_of_tableItems (fun t => Result.file_of_mem_byFile)
    (fun t => Result.file_of_mem_byFile) hitems

/-- The result with one error, that tells this. -/
def Result.ofMessage (message : String) : Result :=
  { files := ["A.java"]
    violations := [⟨"A.java", 1, none, "error", message, ""⟩] }

/-- A text with markup in it is told from what is written for this text. -/
theorem Result.summary_ofMessage_ne :
    (ofMessage "&lt;b&gt;").byFile ≠ (ofMessage "<b>").byFile ∧
      (ofMessage "&lt;b&gt;").summary ≠ (ofMessage "<b>").summary :=
  ⟨by decide, (Result.summary_faithful (ofMessage "<b>")).2.2.2 _ (by decide)⟩

end JavaBuild.Checkstyle
