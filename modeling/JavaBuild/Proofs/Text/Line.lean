import JavaBuild.Text.Blank
import JavaBuild.Text.Line
import Mathlib.Data.List.Basic
import Mathlib.Data.List.TakeWhile

/-!
# Written words and lines

The words of a line are those that it has been written with (`Spaced.words_eq`),
whatever the gaps around and between them. A line that has been written with a break
after it is the first line of its text, and the lines of the rest are the others
(`pieces_append_break`), but for a carriage return before a line feed. So each text has
its lines (`hasLines_iff`), and what follows the end of one of them leaves those up to it
as they are (`HasLines.append_break`).
-/

namespace JavaBuild.Text

variable {c : Char} {cs w gap line rest : List Char} {ws : List (List Char)}

/-! ## Trimming -/

/-- A text goes on as it starts up to some place. -/
theorem exists_span (p : Char → Bool) (cs : List Char) : ∃ before after, cs = before ++ after ∧
    (∀ c ∈ before, p c = true) ∧ ∀ c ∈ after.head?, p c = false := by
  refine ⟨cs.takeWhile p, cs.dropWhile p, List.takeWhile_append_dropWhile.symm,
    fun c => List.mem_takeWhile_imp, fun c hc => ?_⟩
  have hstop := List.head?_dropWhile_not p cs
  rwa [Option.mem_def.1 hc] at hstop

theorem dropWhile_of_head? {p : Char → Bool} (h : ∀ c ∈ cs.head?, p c = false) :
    cs.dropWhile p = cs := by
  cases cs with
  | nil => rfl
  | cons c cs => exact List.dropWhile_cons_of_neg (by simp [h c rfl])

/-- There is nothing to trim between characters that are not blank. -/
theorem trim_eq_self (hfirst : ∀ c ∈ cs.head?, isBlank c = false)
    (hlast : ∀ c ∈ cs.getLast?, isBlank c = false) : trim cs = cs := by
  have hend : cs.reverse.dropWhile isBlank = cs.reverse :=
    dropWhile_of_head? (by rwa [List.head?_reverse])
  rw [trim, dropWhile_of_head? hfirst, trimEnd, hend, List.reverse_reverse]

/-- A trimmed text does not start with a blank, … -/
theorem isBlank_of_mem_head?_trim (hc : c ∈ (trim cs).head?) : isBlank c = false := by
  have hstart := List.head?_dropWhile_not isBlank cs
  -- The blanks at the end are behind the first character that is left.
  have hprefix : trim cs <+: cs.dropWhile isBlank := by
    rw [trim, trimEnd, ← List.reverse_suffix, List.reverse_reverse]
    exact List.dropWhile_suffix _
  obtain ⟨rest, hrest⟩ := hprefix
  rw [← hrest, List.head?_append, Option.mem_def.1 hc] at hstart
  exact hstart

/-- … and does not end with one. -/
theorem isBlank_of_mem_getLast?_trim (hc : c ∈ (trim cs).getLast?) : isBlank c = false := by
  have hend := List.head?_dropWhile_not isBlank (cs.dropWhile isBlank).reverse
  rw [trim, trimEnd, List.getLast?_reverse] at hc
  rw [Option.mem_def.1 hc] at hend
  exact hend

/-- Nothing is left of a text that is all blanks. -/
theorem trimmed_eq_empty_iff {s : String} : trimmed s = "" ↔ ∀ c ∈ s.toList, isBlank c := by
  have hempty : trimmed s = "" ↔ trim s.toList = [] := by
    rw [trimmed, ← String.toList_inj, String.toList_ofList]
    rfl
  rw [hempty, trim, trimEnd, List.reverse_eq_nil_iff, List.dropWhile_eq_nil_iff]
  simp only [List.mem_reverse]
  constructor
  · intro h c hc
    rw [← List.takeWhile_append_dropWhile (p := isBlank) (l := s.toList), List.mem_append] at hc
    exact hc.elim List.mem_takeWhile_imp (h c)
  · exact fun h c hc => h c (List.dropWhile_subset _ hc)

/-- Blanks around a text are trimmed. -/
theorem trim_append {before after : List Char} (hne : cs ≠ [])
    (hfirst : ∀ c ∈ cs.head?, isBlank c = false) (hlast : ∀ c ∈ cs.getLast?, isBlank c = false)
    (hbefore : ∀ c ∈ before, isBlank c) (hafter : ∀ c ∈ after, isBlank c) :
    trim (before ++ (cs ++ after)) = cs := by
  have hstart : (cs ++ after).dropWhile isBlank = cs ++ after := by
    refine dropWhile_of_head? fun c hc => hfirst c ?_
    rwa [List.head?_append_of_ne_nil _ hne] at hc
  have hend : cs.reverse.dropWhile isBlank = cs.reverse :=
    dropWhile_of_head? (by rwa [List.head?_reverse])
  rw [trim, List.dropWhile_append_of_pos hbefore, hstart, trimEnd, List.reverse_append,
    List.dropWhile_append_of_pos (by simpa using hafter), hend, List.reverse_reverse]

/-- Only blanks are trimmed. -/
theorem exists_eq_append_trim (cs : List Char) : ∃ before after,
    cs = before ++ (trim cs ++ after) ∧ (∀ c ∈ before, isBlank c) ∧ ∀ c ∈ after, isBlank c := by
  have hend (ds : List Char) : ds = trimEnd ds ++ (ds.reverse.takeWhile isBlank).reverse := by
    rw [trimEnd, ← List.reverse_append, List.takeWhile_append_dropWhile, List.reverse_reverse]
  refine ⟨cs.takeWhile isBlank, ((cs.dropWhile isBlank).reverse.takeWhile isBlank).reverse, ?_,
    fun c => List.mem_takeWhile_imp, fun c hc => List.mem_takeWhile_imp (List.mem_reverse.1 hc)⟩
  rw [trim, ← hend, List.takeWhile_append_dropWhile]

/-- The second text is the first one without the blanks around it. -/
structure Trims (s t : String) : Prop where
  around : ∃ before after, s.toList = before ++ (t.toList ++ after) ∧
    (∀ c ∈ before, isBlank c) ∧ ∀ c ∈ after, isBlank c
  start : ∀ c ∈ t.toList.head?, isBlank c = false
  stop : ∀ c ∈ t.toList.getLast?, isBlank c = false

theorem trims_iff {s t : String} : Trims s t ↔ trimmed s = t := by
  constructor
  · rintro ⟨⟨before, after, hs, hbefore, hafter⟩, hstart, hstop⟩
    by_cases hempty : t.toList = []
    · have ht : t = "" := by simpa using hempty
      rw [ht, trimmed_eq_empty_iff, hs, hempty, List.nil_append]
      exact List.forall_mem_append.2 ⟨hbefore, hafter⟩
    · rw [trimmed, hs, trim_append hempty hstart hstop hbefore hafter, String.ofList_toList]
  · rintro rfl
    rw [trimmed]
    constructor <;> rw [String.toList_ofList]
    · exact exists_eq_append_trim s.toList
    · exact fun c => isBlank_of_mem_head?_trim
    · exact fun c => isBlank_of_mem_getLast?_trim

/-! ## Words -/

/-- Characters that are taken together as a word. -/
structure IsWord (w : List Char) : Prop where
  nonempty : w ≠ []
  solid : ∀ c ∈ w, isBlank c = false

/-- No word goes over a blank. -/
theorem words_append_cons (h : isBlank c) (before after : List Char) :
    words (before ++ c :: after) = words before ++ words after := by
  rw [words, List.splitOnP_append_cons _ _ h, List.filter_append]
  rfl

theorem words_cons_of_isBlank (h : isBlank c) : words (c :: cs) = words cs :=
  words_append_cons h [] cs

/-- Blanks in front do not count. -/
theorem words_append_of_isBlank (h : ∀ c ∈ gap, isBlank c) : words (gap ++ cs) = words cs := by
  induction gap with
  | nil => rfl
  | cons c gap ih =>
    rw [List.cons_append, words_cons_of_isBlank (h c List.mem_cons_self),
      ih fun d hd => h d (List.mem_cons_of_mem c hd)]

theorem IsWord.words_eq (h : IsWord w) : words w = [w] := by
  rw [words, List.splitOnP_eq_singleton h.solid]
  simp [h.nonempty]

/-- A word ends at a blank, or at the end of the text. -/
theorem IsWord.words_append (h : IsWord w) (hrest : ∀ c ∈ rest.head?, isBlank c) :
    words (w ++ rest) = w :: words rest := by
  cases rest with
  | nil =>
    rw [List.append_nil, h.words_eq]
    rfl
  | cons c rest =>
    rw [words_append_cons (hrest c rfl), words_cons_of_isBlank (hrest c rfl), h.words_eq]
    rfl

theorem isLineEnd_of_isBlank_eq_false (h : isBlank c = false) : isLineEnd c = false := by
  simp only [isBlank, blankRanges, CharRanges.contains, CharRanges.containsCode, List.any_cons,
    List.any_nil, Bool.or_eq_false_iff, Bool.and_eq_false_iff, decide_eq_false_iff_not] at h
  simp only [isLineEnd, Bool.or_eq_false_iff, Bool.and_eq_false_iff, decide_eq_false_iff_not,
    beq_eq_false_iff_ne]
  omega

/-- A gap is made of blanks at which no line ends. -/
def IsGap (gap : List Char) : Prop := ∀ c ∈ gap, isBlank c ∧ isLineEnd c = false

instance (gap : List Char) : Decidable (IsGap gap) :=
  inferInstanceAs (Decidable (∀ c ∈ gap, isBlank c ∧ isLineEnd c = false))

/-- Words are written in this order, with gaps around them and between them. A gap
    between two words is not empty. -/
inductive Spaced : List (List Char) → List Char → Prop
  | gap {gap : List Char} (h : IsGap gap) : Spaced [] gap
  | word {gap w rest : List Char} {ws : List (List Char)} (h : IsGap gap)
    (hsep : ws ≠ [] → rest.head?.any isBlank) (hrest : Spaced ws rest) :
    Spaced (w :: ws) (gap ++ (w ++ rest))

/-- After a word comes a blank, or nothing. -/
theorem Spaced.isBlank_head (h : Spaced ws rest) (hsep : ws ≠ [] → rest.head?.any isBlank) :
    ∀ c ∈ rest.head?, isBlank c := by
  intro c hc
  cases ws with
  | nil =>
    cases h with
    | gap h => exact (h c (List.mem_of_mem_head? hc)).1
  | cons w ws =>
    have hany := hsep (List.cons_ne_nil w ws)
    rwa [hc, Option.any_some] at hany

/-- Written words are these words. -/
theorem Spaced.words_eq (h : Spaced ws cs) (hws : ∀ w ∈ ws, IsWord w) : words cs = ws := by
  induction h with
  | @gap gap h =>
    have hwords : words (gap ++ []) = [] := words_append_of_isBlank fun c hc => (h c hc).1
    rwa [List.append_nil] at hwords
  | word h hsep hrest ih =>
    obtain ⟨hw, hws⟩ := List.forall_mem_cons.1 hws
    rw [words_append_of_isBlank fun c hc => (h c hc).1,
      hw.words_append (hrest.isBlank_head hsep), ih hws]

/-- In written words there is nothing but gaps and words. -/
theorem Spaced.mem (h : Spaced ws cs) (hc : c ∈ cs) :
    (isBlank c ∧ isLineEnd c = false) ∨ ∃ w ∈ ws, c ∈ w := by
  induction h with
  | gap h => exact .inl (h c hc)
  | word h hsep hrest ih =>
    rcases List.mem_append.1 hc with hc | hc
    · exact .inl (h c hc)
    · rcases List.mem_append.1 hc with hc | hc
      · exact .inr ⟨_, List.mem_cons_self, hc⟩
      · exact (ih hc).imp_right fun ⟨w, hw, hc⟩ => ⟨w, List.mem_cons_of_mem _ hw, hc⟩

/-- Written words are part of the text. -/
theorem Spaced.mem_of_mem_word (h : Spaced ws cs) (hw : w ∈ ws) (hc : c ∈ w) : c ∈ cs := by
  induction h with
  | gap => exact absurd hw List.not_mem_nil
  | word _ _ _ ih =>
    refine List.mem_append_right _ (List.mem_append.2 ?_)
    rcases List.mem_cons.1 hw with rfl | hw
    · exact .inl hc
    · exact .inr (ih hw)

/-- Each line is written with words. -/
theorem exists_spaced (hline : ∀ c ∈ cs, isLineEnd c = false) :
    ∃ ws, Spaced ws cs ∧ ∀ w ∈ ws, IsWord w := by
  -- By induction on the length: a gap and a word are cut off at a time.
  induction hlen : cs.length using Nat.strongRecOn generalizing cs with
  | ind n ih =>
    obtain ⟨gap, cs', rfl, hblank, hstart⟩ := exists_span isBlank cs
    obtain ⟨hgap, hcs'⟩ := List.forall_mem_append.1 hline
    have hgap : IsGap gap := fun c hc => ⟨hblank c hc, hgap c hc⟩
    obtain ⟨w, rest, rfl, hsolid, hstop⟩ := exists_span (!isBlank ·) cs'
    by_cases hw : w = []
    · -- What follows the gap starts neither with a blank nor with a word.
      cases rest with
      | nil => exact ⟨[], by simpa [hw] using Spaced.gap hgap, nofun⟩
      | cons c rest =>
        have hc := hstart c (by rw [hw]; rfl)
        simp [hc] at hstop
    · have hword : IsWord w := ⟨hw, fun c hc => by simpa using hsolid c hc⟩
      have hshort : rest.length < n := by
        have hpos := List.length_pos_iff.2 hw
        rw [← hlen, List.length_append, List.length_append]
        omega
      obtain ⟨ws, hrest, hws⟩ := ih rest.length hshort (List.forall_mem_append.1 hcs').2 rfl
      refine ⟨w :: ws, .word hgap (fun hne => ?_) hrest, List.forall_mem_cons.2 ⟨hword, hws⟩⟩
      cases rest with
      | nil =>
        have hnone := hrest.words_eq hws
        exact absurd hnone.symm hne
      | cons c rest => simpa using hstop c rfl

/-! ## Lines -/

/-- The end of a line: a character at which lines end, or a carriage return with a line
    feed. -/
inductive IsBreak : List Char → Prop
  | single {c : Char} (h : isLineEnd c) : IsBreak [c]
  | pair : IsBreak ['\r', '\n']

/-- The characters between the ends of lines. -/
def pieces (cs : List Char) : List (List Char) := (unifyNewlines cs).splitOnP isLineEnd

theorem unifyNewlines_cons_of_ne (h : c ≠ '\r') :
    unifyNewlines (c :: cs) = c :: unifyNewlines cs := by
  rw [unifyNewlines] <;> simp_all

theorem unifyNewlines_append (h : ∀ c ∈ line, isLineEnd c = false) :
    unifyNewlines (line ++ cs) = line ++ unifyNewlines cs := by
  induction line with
  | nil => rfl
  | cons c line ih =>
    obtain ⟨hc, hline⟩ := List.forall_mem_cons.1 h
    have hne : c ≠ '\r' := by
      rintro rfl
      exact absurd hc (by decide)
    rw [List.cons_append, unifyNewlines_cons_of_ne hne, ih hline, List.cons_append]

/-- The end of a line is one character. A line feed that follows a carriage return is
    part of it. -/
theorem unifyNewlines_break {ending : List Char} (h : IsBreak ending) (rest : List Char) :
    ∃ c rest', isLineEnd c ∧ unifyNewlines (ending ++ rest) = c :: unifyNewlines rest' ∧
      (rest = rest' ∨ ending = ['\r'] ∧ rest = '\n' :: rest') := by
  cases h with
  | pair => exact ⟨'\n', rest, by decide, rfl, .inl rfl⟩
  | @single c h =>
    by_cases hc : c = '\r'
    · subst hc
      by_cases hfeed : ∃ rest', rest = '\n' :: rest'
      · obtain ⟨rest', rfl⟩ := hfeed
        exact ⟨'\n', rest', by decide, rfl, .inr ⟨rfl, rfl⟩⟩
      · refine ⟨'\n', rest, by decide, ?_, .inl rfl⟩
        rw [List.singleton_append, unifyNewlines]
        exact fun rest' h => hfeed ⟨rest', h⟩
    · exact ⟨c, rest, h, unifyNewlines_cons_of_ne hc, .inl rfl⟩

/-- The first piece of a text is the line before its end. A line feed that follows a carriage
    return does not start another one. -/
theorem exists_pieces_append {ending : List Char} (hline : ∀ c ∈ line, isLineEnd c = false)
    (h : IsBreak ending) (rest : List Char) : ∃ rest',
      pieces (line ++ (ending ++ rest)) = line :: pieces rest' ∧
      (rest = rest' ∨ ending = ['\r'] ∧ rest = '\n' :: rest') := by
  obtain ⟨c, rest', hc, hunify, hrest⟩ := unifyNewlines_break h rest
  refine ⟨rest', ?_, hrest⟩
  rw [pieces, unifyNewlines_append hline, hunify, List.splitOnP_append_cons _ _ hc,
    List.splitOnP_eq_singleton hline]
  rfl

/-- The lines of a text that has been written line by line. There is an empty line less
    where the break is a carriage return, and the rest starts with a line feed. -/
theorem pieces_append_break {ending : List Char} (hline : ∀ c ∈ line, isLineEnd c = false)
    (h : IsBreak ending) (rest : List Char) : ∃ tail,
      pieces (line ++ (ending ++ rest)) = line :: tail ∧
      (pieces rest = tail ∨ pieces rest = [] :: tail) := by
  obtain ⟨rest', hpieces, hrest⟩ := exists_pieces_append hline h rest
  refine ⟨pieces rest', hpieces, hrest.imp (congrArg pieces) fun ⟨_, h⟩ => ?_⟩
  rw [h, pieces, unifyNewlines_cons_of_ne (by decide), List.splitOnP_cons_eq_if_modifyHead]
  rfl

theorem pieces_of_line (hline : ∀ c ∈ line, isLineEnd c = false) : pieces line = [line] := by
  have hunify : unifyNewlines (line ++ []) = line ++ [] := unifyNewlines_append hline
  rw [List.append_nil] at hunify
  rw [pieces, hunify, List.splitOnP_eq_singleton hline]

/-- A text has these lines. What follows the end of the last one is a line only if it is not
    empty. A line that ends in a carriage return is not followed by a line feed, which would
    be part of its end. -/
inductive HasLines : List Char → List (List Char) → Prop
  | nil : HasLines [] []
  | last {line : List Char} (hne : line ≠ []) (hline : ∀ c ∈ line, isLineEnd c = false) :
    HasLines line [line]
  | line {line ending rest : List Char} {ls : List (List Char)}
    (hline : ∀ c ∈ line, isLineEnd c = false) (hending : IsBreak ending)
    (hwhole : ending = ['\r'] → rest.head? ≠ some '\n') (hrest : HasLines rest ls) :
    HasLines (line ++ (ending ++ rest)) (line :: ls)

theorem dropLastEmpty_cons {ls : List (List Char)} (h : line ≠ [] ∨ ls ≠ []) :
    dropLastEmpty (line :: ls) = line :: dropLastEmpty ls := by
  cases ls with
  | nil =>
    have hne : line ≠ [] := h.resolve_right fun h => h rfl
    simp [dropLastEmpty, hne]
  | cons next ls =>
    rw [dropLastEmpty, dropLastEmpty, List.getLast?_cons_cons]
    split <;> rfl

theorem lines_eq_dropLastEmpty (cs : List Char) : lines cs = dropLastEmpty (pieces cs) := rfl

/-- The line before the end of a line is followed by the lines of the rest. -/
theorem lines_append_break {ending : List Char} (hline : ∀ c ∈ line, isLineEnd c = false)
    (h : IsBreak ending) (rest : List Char) : ∃ rest',
      lines (line ++ (ending ++ rest)) = line :: lines rest' ∧
      (rest = rest' ∨ ending = ['\r'] ∧ rest = '\n' :: rest') := by
  obtain ⟨rest', hpieces, hrest⟩ := exists_pieces_append hline h rest
  refine ⟨rest', ?_, hrest⟩
  rw [lines_eq_dropLastEmpty, hpieces]
  exact dropLastEmpty_cons (.inr (List.splitOnP_ne_nil _ _))

theorem HasLines.lines_eq {ls : List (List Char)} (h : HasLines cs ls) : lines cs = ls := by
  induction h with
  | nil => rfl
  | last hne hline =>
    rw [lines_eq_dropLastEmpty, pieces_of_line hline]
    exact dropLastEmpty_cons (.inl hne)
  | @line line ending rest ls hline hending hwhole _ ih =>
    obtain ⟨rest', hlines, hrest⟩ := lines_append_break hline hending rest
    rcases hrest with rfl | ⟨hreturn, hfeed⟩
    · rw [hlines, ih]
    · exact absurd (hfeed ▸ rfl) (hwhole hreturn)

/-- A character at which a line ends starts the whole end of the line. -/
theorem exists_break (hc : isLineEnd c) (rest : List Char) : ∃ ending rest',
    c :: rest = ending ++ rest' ∧ IsBreak ending ∧
      (ending = ['\r'] → rest'.head? ≠ some '\n') ∧ rest'.length ≤ rest.length := by
  by_cases hpair : c = '\r' ∧ rest.head? = some '\n'
  · obtain ⟨rfl, hhead⟩ := hpair
    obtain ⟨rest', rfl⟩ := List.head?_eq_some_iff.1 hhead
    exact ⟨['\r', '\n'], rest', rfl, .pair, by simp, Nat.le_succ _⟩
  · refine ⟨[c], rest, rfl, .single hc, fun hreturn hhead => hpair ⟨?_, hhead⟩, le_rfl⟩
    exact List.singleton_inj.1 hreturn

/-- Each text has its lines. -/
theorem exists_hasLines (cs : List Char) : ∃ ls, HasLines cs ls := by
  -- By induction on the length: a line is cut off at a time, with all of its end.
  induction hlen : cs.length using Nat.strongRecOn generalizing cs with
  | ind n ih =>
    obtain ⟨line, after, rfl, hline, hend⟩ := exists_span (!isLineEnd ·) cs
    have hline : ∀ c ∈ line, isLineEnd c = false := fun c hc => by simpa using hline c hc
    cases after with
    | nil =>
      rw [List.append_nil]
      by_cases hne : line = []
      · exact ⟨[], hne ▸ .nil⟩
      · exact ⟨[line], .last hne hline⟩
    | cons c after =>
      obtain ⟨ending, rest, hafter, hending, hwhole, hshort⟩ :=
        exists_break (c := c) (by simpa using hend c rfl) after
      have hrest : rest.length < n := by
        rw [← hlen, List.length_append, List.length_cons]
        omega
      obtain ⟨ls, hls⟩ := ih rest.length hrest rest rfl
      rw [hafter]
      exact ⟨_, .line hline hending hwhole hls⟩

theorem hasLines_iff {ls : List (List Char)} : HasLines cs ls ↔ lines cs = ls := by
  refine ⟨HasLines.lines_eq, fun h => ?_⟩
  obtain ⟨ls', hls'⟩ := exists_hasLines cs
  rwa [← h, hls'.lines_eq]

/-- No line has an end in it. -/
theorem HasLines.isLineEnd_eq_false {ls : List (List Char)} (h : HasLines cs ls)
    (hline : line ∈ ls) : ∀ c ∈ line, isLineEnd c = false := by
  induction h with
  | nil => exact absurd hline List.not_mem_nil
  | last _ hlast => exact List.mem_singleton.1 hline ▸ hlast
  | line hfirst _ _ _ ih =>
    rcases List.mem_cons.1 hline with rfl | hline
    · exact hfirst
    · exact ih hline

/-- What follows the end of a line leaves the lines before it as they are. -/
theorem HasLines.append_break {front ending : List Char} {ls : List (List Char)}
    (h : HasLines front ls) (hending : IsBreak ending) (rest : List Char) :
    ∃ tail, HasLines (front ++ (ending ++ rest)) (ls ++ tail) := by
  simp only [hasLines_iff]
  induction h with
  | nil => exact ⟨_, rfl⟩
  | last _ hline =>
    obtain ⟨rest', hlines, -⟩ := lines_append_break hline hending rest
    exact ⟨lines rest', hlines⟩
  | @line line ending' front ls hline hending' hwhole hfront ih =>
    obtain ⟨tail, ih⟩ := ih
    obtain ⟨rest', hlines, hrest⟩ :=
      lines_append_break hline hending' (front ++ (ending ++ rest))
    rw [List.append_assoc, List.append_assoc, hlines]
    rcases hrest with rfl | ⟨hreturn, hfeed⟩
    · exact ⟨tail, by rw [ih, List.cons_append]⟩
    · -- The line feed is not from the lines in front, so there are no more of them.
      cases front with
      | nil =>
        cases hfront.lines_eq
        exact ⟨lines rest', rfl⟩
      | cons c front =>
        cases hfeed
        exact absurd rfl (hwhole hreturn)

end JavaBuild.Text
