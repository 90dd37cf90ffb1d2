import Mathlib.Data.List.Basic

/-!
# Reading pages

A page is read as its tags, each with the text that follows it (`pieces`): a tag goes from
a `<` to the next `>`, whatever is between them. References stand for the characters that
have a meaning in markup (`unescape`). The headings and the cells of the tables are told in
the order in which they stand on the page (`items`).

A page that has been written piece by piece is read as these pieces, if no text could
begin a tag and no tag could end early (`splitText_write`).
-/

namespace JavaBuild.Markup

/-- A tag, without its brackets, and the text up to the next tag. -/
structure Piece where
  tag : List Char
  text : List Char := []
  deriving DecidableEq, Repr

mutual
/-- The text up to the next tag, and the pieces from this tag on. -/
def splitText : List Char → List Char × List Piece
  | [] => ([], [])
  | c :: cs =>
    if c = '<' then ([], splitTag cs)
    else
      let (text, ps) := splitText cs
      (c :: text, ps)
/-- The pieces from the tag on of which this is the rest. What does not end is no tag. -/
def splitTag : List Char → List Piece
  | [] => []
  | c :: cs =>
    if c = '>' then
      let (text, ps) := splitText cs
      { tag := [], text } :: ps
    else
      match splitTag cs with
      | [] => []
      | p :: ps => { p with tag := c :: p.tag } :: ps
end

/-- The pieces of a page. -/
def pieces (page : String) : List Piece := (splitText page.toList).2

/-- The tags of a page. -/
def tags (page : String) : List String := (pieces page).map fun p => String.ofList p.tag

/-- A text with the characters that its references stand for. -/
def unescape : List Char → List Char
  | '&' :: 'a' :: 'm' :: 'p' :: ';' :: cs => '&' :: unescape cs
  | '&' :: 'l' :: 't' :: ';' :: cs => '<' :: unescape cs
  | '&' :: 'g' :: 't' :: ';' :: cs => '>' :: unescape cs
  | '&' :: 'q' :: 'u' :: 'o' :: 't' :: ';' :: cs => '"' :: unescape cs
  | '&' :: '#' :: 'x' :: '2' :: '7' :: ';' :: cs => '\'' :: unescape cs
  | c :: cs => c :: unescape cs
  | [] => []

/-- A heading, or a cell of a table. -/
inductive Item
  | heading (text : String)
  | cell (text : String)
  deriving DecidableEq, Repr

/-- The heading or the cell that begins with a piece, as it is shown. -/
def Piece.item? (p : Piece) : Option Item :=
  if p.tag = "h2".toList then some (.heading (String.ofList (unescape p.text)))
  else if p.tag = "td".toList then some (.cell (String.ofList (unescape p.text)))
  else none

/-- The headings of the second level and the cells of a page, in their order. -/
def items (page : String) : List Item := (pieces page).filterMap Piece.item?

/-! ## Writing pages -/

/-- A piece as it stands on a page. -/
def Piece.write (p : Piece) : List Char := '<' :: (p.tag ++ '>' :: p.text)

/-- No tag ends early, and none begins in a text. -/
def Piece.IsPlain (p : Piece) : Prop := '>' ∉ p.tag ∧ '<' ∉ p.text

instance : DecidablePred Piece.IsPlain := fun p =>
  inferInstanceAs (Decidable ('>' ∉ p.tag ∧ '<' ∉ p.text))

variable {cs text tag : List Char} {ps : List Piece}

/-- A text goes on up to the next tag. -/
theorem splitText_append (h : '<' ∉ text) (cs : List Char) :
    splitText (text ++ cs) = (text ++ (splitText cs).1, (splitText cs).2) := by
  induction text with
  | nil => rfl
  | cons c text ih =>
    rw [List.mem_cons, not_or] at h
    rw [List.cons_append, splitText, if_neg (Ne.symm h.1), ih h.2]
    rfl

/-- A tag goes on up to its bracket. -/
theorem splitTag_append (h : '>' ∉ tag) (cs : List Char) :
    splitTag (tag ++ '>' :: cs) = ⟨tag, (splitText cs).1⟩ :: (splitText cs).2 := by
  induction tag with
  | nil => rfl
  | cons c tag ih =>
    rw [List.mem_cons, not_or] at h
    rw [List.cons_append, splitTag, if_neg (Ne.symm h.1), ih h.2]

/-- Written pieces are read again. -/
theorem splitText_write (h : ∀ p ∈ ps, p.IsPlain) :
    splitText (ps.flatMap Piece.write) = ([], ps) := by
  induction ps with
  | nil => rfl
  | cons p ps ih =>
    obtain ⟨⟨htag, htext⟩, hps⟩ := List.forall_mem_cons.1 h
    rw [List.flatMap_cons, Piece.write, List.cons_append, List.append_assoc, List.cons_append,
      splitText, if_pos rfl, splitTag_append htag, splitText_append htext, ih hps,
      List.append_nil]

theorem unescape_cons {c : Char} (h : c ≠ '&') (cs : List Char) :
    unescape (c :: cs) = c :: unescape cs := by
  rw [unescape] <;> simp [h]

end JavaBuild.Markup
