import JavaBuild.Proofs.Checkstyle.Summary
import JavaBuild.Proofs.Text.Surrogate

/-!
# Results with lone surrogates

There are lone surrogates in the summary of a result exactly if there are in the texts of one
of its violations (`Result.isUnicode_summary_iff`).
-/

namespace JavaBuild.Checkstyle

open Markup (Piece)
open Text.Escapes (isUnicode_ofList_iff)

variable {escapes : Text.Escapes}

/-- There are no lone surrogates in the texts of a violation. -/
@[mk_iff]
structure Violation.IsUnicode (v : Violation) (escapes : Text.Escapes) : Prop where
  file : escapes.IsUnicode v.file
  severity : escapes.IsUnicode v.severity
  message : escapes.IsUnicode v.message
  source : escapes.IsUnicode v.source

instance (v : Violation) : Decidable (v.IsUnicode escapes) :=
  decidable_of_iff' _ (v.isUnicode_iff escapes)

/-! ## Pieces -/

/-- There are no lone surrogates in some pieces. -/
def IsClear (escapes : Text.Escapes) (ps : List Piece) : Prop :=
  ∀ c ∈ ps.flatMap Piece.write, escapes.byte? c = none

theorem isClear_append_iff {ps qs : List Piece} :
    IsClear escapes (ps ++ qs) ↔ IsClear escapes ps ∧ IsClear escapes qs := by
  rw [IsClear, List.flatMap_append, List.forall_mem_append]
  rfl

theorem isClear_flatMap_iff {α : Type} {l : List α} {f : α → List Piece} :
    IsClear escapes (l.flatMap f) ↔ ∀ a ∈ l, IsClear escapes (f a) := by
  rw [IsClear, List.flatMap_assoc, List.forall_mem_flatMap]
  rfl

theorem IsClear.of_ascii {ps : List Piece} (h : ∀ c ∈ ps.flatMap Piece.write, c.toNat < 0x80) :
    IsClear escapes ps :=
  fun c hc => escapes.ascii c (h c hc)

/-- What stands for a special character is ASCII, and so is the character. -/
theorem isUnicode_escape_iff {s : String} : escapes.IsUnicode (escape s) ↔ escapes.IsUnicode s := by
  refine Text.Escapes.isUnicode_flatMap_iff fun c => ?_
  unfold escapeChar
  split
  case h_6 => exact .inl rfl
  all_goals exact .inr (by decide)

theorem isUnicode_repr (n : Int) : escapes.IsUnicode n.repr := by
  refine .of_ascii fun c hc => ?_
  rcases Text.isDigit_of_mem_repr hc with rfl | hdigit
  · decide
  · exact (Text.toNat_of_isDigit hdigit).2.trans_lt (by decide)

/-- The names of tags are ASCII, and so are the brackets around them. -/
theorem isClear_cons_iff {tag : List Char} {text : String} {ps : List Piece}
    (h : ∀ c ∈ tag, c.toNat < 0x80) :
    IsClear escapes (⟨tag, text.toList⟩ :: ps) ↔ escapes.IsUnicode text ∧ IsClear escapes ps := by
  have htag : ∀ c ∈ tag, escapes.byte? c = none := fun c hc => escapes.ascii c (h c hc)
  have hless : escapes.byte? '<' = none := escapes.ascii '<' (by decide)
  have hgreater : escapes.byte? '>' = none := escapes.ascii '>' (by decide)
  rw [IsClear, List.flatMap_cons, List.forall_mem_append, Piece.write, List.forall_mem_cons,
    List.forall_mem_append, List.forall_mem_cons]
  constructor
  · rintro ⟨⟨-, -, -, htext⟩, hps⟩
    exact ⟨htext, hps⟩
  · rintro ⟨htext, hps⟩
    exact ⟨⟨hless, htag, hgreater, htext⟩, hps⟩

theorem isClear_elementPieces_iff {name text : String} (h : ∀ c ∈ name.toList, c.toNat < 0x80) :
    IsClear escapes (elementPieces name text) ↔ escapes.IsUnicode text := by
  have hend : IsClear escapes [⟨("/" ++ name).toList, []⟩] := by
    refine .of_ascii ?_
    simp only [List.flatMap_singleton, Piece.write, String.toList_append, List.forall_mem_cons,
      List.forall_mem_append]
    exact ⟨by decide, ⟨by decide, h⟩, by decide, by decide⟩
  rw [elementPieces, isClear_cons_iff h, and_iff_left hend, isUnicode_escape_iff]

theorem isClear_rowPieces_iff {v : Violation} : IsClear escapes (rowPieces v) ↔
    escapes.IsUnicode v.severity ∧ escapes.IsUnicode v.message ∧ escapes.IsUnicode v.source := by
  have hline : escapes.IsUnicode v.line.repr := isUnicode_repr v.line
  have hcolumn : escapes.IsUnicode ((v.column.map toString).getD "") := by
    cases v.column with
    | none => exact .of_ascii (by decide)
    | some n => exact isUnicode_repr n
  have hcell (text : String) :
      IsClear escapes (elementPieces "td" text) ↔ escapes.IsUnicode text :=
    isClear_elementPieces_iff (by decide)
  have hstart : IsClear escapes [⟨"tr".toList, []⟩] := .of_ascii (by decide)
  have hend : IsClear escapes [⟨"/tr".toList, ['\n']⟩] := .of_ascii (by decide)
  rw [rowPieces, ← List.singleton_append, isClear_append_iff, isClear_append_iff,
    isClear_flatMap_iff, and_iff_left hend, and_iff_right hstart]
  simp [hcell, Violation.cells, hline, hcolumn]

theorem isClear_tablePieces_iff {file : String} {vs : List Violation} :
    IsClear escapes (tablePieces file vs) ↔
      escapes.IsUnicode file ∧ ∀ v ∈ vs, IsClear escapes (rowPieces v) := by
  have htag : ∀ c ∈ "h2".toList, c.toNat < 0x80 := by decide
  have hheading : IsClear escapes [⟨"/h2".toList, ['\n']⟩] := .of_ascii (by decide)
  have hheader : IsClear escapes headerPieces := .of_ascii (by decide)
  have hend : IsClear escapes [⟨"/table".toList, ['\n']⟩] := .of_ascii (by decide)
  rw [tablePieces, isClear_append_iff, isClear_append_iff, isClear_append_iff,
    isClear_flatMap_iff, isClear_cons_iff htag, and_iff_left hend, and_iff_left hheader,
    and_iff_left hheading, isUnicode_escape_iff]

/-- The sentence is ASCII, as its numbers are. -/
theorem isUnicode_sentence (r : Result) : escapes.IsUnicode r.sentence := by
  have hnumber (n : Nat) : escapes.IsUnicode (toString n) := isUnicode_repr n
  have hascii (text : String) (h : ∀ c ∈ text.toList, c.toNat < 0x80) :
      escapes.IsUnicode (toString text) := .of_ascii h
  simp only [Result.sentence, Text.Escapes.isUnicode_append_iff, hnumber, true_and, and_true]
  exact ⟨⟨hascii " files checked, " (by decide), hascii " errors, " (by decide)⟩,
    hascii " warnings." (by decide)⟩

/-! ## The summary -/

/-- There are lone surrogates in the summary of a result exactly if there are in the texts of a
    violation. -/
theorem Result.isUnicode_summary_iff {r : Result} :
    escapes.IsUnicode r.summary ↔ ∀ v ∈ r.violations, v.IsUnicode escapes := by
  -- Of the page around the tables, only the sentence depends on the result.
  have hopening : IsClear escapes (openingPieces r.sentence) := by
    have hpieces : openingPieces r.sentence = (openingPieces "").take 10 ++
        [⟨"p".toList, r.sentence.toList⟩, ⟨"/p".toList, ['\n']⟩] := rfl
    have htag : ∀ c ∈ "p".toList, c.toNat < 0x80 := by decide
    rw [hpieces, isClear_append_iff, isClear_cons_iff htag]
    exact ⟨.of_ascii (by decide +kernel), isUnicode_sentence r, .of_ascii (by decide)⟩
  have hclosing : IsClear escapes closingPieces := .of_ascii (by decide)
  rw [Text.Escapes.IsUnicode, r.summary_toList, ← IsClear, summaryPieces, isClear_append_iff,
    isClear_append_iff, isClear_flatMap_iff, and_iff_left hclosing, and_iff_right hopening,
    r.byFile_eq, List.forall_mem_map]
  simp only [isClear_tablePieces_iff, isClear_rowPieces_iff, List.mem_eraseDups, List.mem_map,
    List.mem_filter, decide_eq_true_eq]
  constructor
  · intro h v hv
    obtain ⟨hfile, hcells⟩ := h v.file ⟨v, hv, rfl⟩
    obtain ⟨hseverity, hmessage, hsource⟩ := hcells v ⟨hv, rfl⟩
    exact ⟨hfile, hseverity, hmessage, hsource⟩
  · rintro h _ ⟨v, hv, rfl⟩
    refine ⟨(h v hv).file, ?_⟩
    rintro v' ⟨hv', -⟩
    exact ⟨(h v' hv').severity, (h v' hv').message, (h v' hv').source⟩

end JavaBuild.Checkstyle
