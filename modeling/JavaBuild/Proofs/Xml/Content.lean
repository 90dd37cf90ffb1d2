import JavaBuild.Proofs.Xml.StartTag
import JavaBuild.Xml.Content

/-!
# Reading written contents

A content *reads* as nodes with an ending if it is read so whenever the budget is
enough for its characters (`Reads`). It is built from its end: an end tag reads as no
nodes (`reads_endTag`), text in front of a content that is read joins its first run
(`Reads.text`), and so does an element in front of it (`Reads.element`), whose own
content has to be read up to its end tag.
-/

namespace JavaBuild.Xml

variable {e : TextEnd} {expand : Bindings → List Char → Except XmlFault (List Node)}
  {bindings : Bindings} {c : Char} {cs name rest : List Char} {content : Content}

/-- A content is read like this, if there is a budget for all of its characters. -/
def Reads (e : TextEnd) (expand : Bindings → List Char → Except XmlFault (List Node))
    (bindings : Bindings) (cs : List Char) (content : Content) : Prop :=
  ∀ budget, cs.length < budget → readContent {} e expand budget bindings cs = .ok content

/-! ## Text in front of a content -/

theorem consText_append (text more : List Char) (nodes : List Node) :
    consText (text ++ more) nodes = consText text (consText more nodes) := by
  cases text with
  | nil => rfl
  | cons c text =>
    cases more with
    | nil =>
      rw [List.append_nil]
      rfl
    | cons d more =>
      -- Both runs are there, and joined with the one that follows, if there is one.
      rcases nodes with _ | ⟨_ | _, nodes⟩ <;>
        simp [consText, String.ofList_append, String.append_assoc]

theorem Content.consText_append (text more : List Char) (content : Content) :
    content.consText (text ++ more) = (content.consText more).consText text := by
  rw [consText, Xml.consText_append]
  rfl

/-- Text does not add to the children of an element. -/
theorem children_consText (name : Name) (as : List Attribute) (text : List Char)
    (nodes : List Node) :
    (Element.mk name as (consText text nodes)).children = (Element.mk name as nodes).children := by
  cases text with
  | nil => rfl
  | cons c text => rcases nodes with _ | ⟨_ | _, nodes⟩ <;> rfl

/-! ## One piece of content -/

theorem nextContent_of_scanContent {found : ContentToken × List Char} (hc : c ≠ '\r')
    (h : scanContent e.ending (c :: cs) = .ok found) :
    nextContent e (c :: cs) = .ok (some found) := by
  rw [nextContent, if_neg (by simp), if_neg (by simp [hc]), h]

/-- A piece of text comes before what follows it. -/
theorem Reads.data {text : List Char} (hc : c ≠ '\r')
    (h : scanContent e.ending (c :: cs) = .ok (.data text, rest))
    (hlength : rest.length ≤ cs.length) (hrest : Reads e expand bindings rest content) :
    Reads e expand bindings (c :: cs) (content.consText text) := by
  intro budget hbudget
  obtain ⟨n, rfl⟩ := Nat.exists_eq_succ_of_ne_zero (Nat.ne_of_gt (Nat.zero_lt_of_lt hbudget))
  rw [List.length_cons] at hbudget
  rw [readContent, nextContent_of_scanContent hc h]
  simp only [bind, Except.bind, hrest n (by omega)]
  rfl

/-- A reference comes before what follows it, as the character that it stands for. -/
theorem Reads.reference (hrest : Reads e expand bindings rest content) (hname : StandsFor name c) :
    Reads e expand bindings ('&' :: name ++ ';' :: rest) (content.consText [c]) := by
  obtain ⟨r, hr, hchar⟩ := hname.scanned
  have hscan : scanContent e.ending ('&' :: (name ++ ';' :: rest)) = .ok (.reference r, rest) := by
    simp only [scanContent, hr]
    rfl
  intro budget hbudget
  obtain ⟨n, rfl⟩ := Nat.exists_eq_succ_of_ne_zero (Nat.ne_of_gt (Nat.zero_lt_of_lt hbudget))
  have hread := hrest n (by simp at hbudget; omega)
  rw [List.cons_append, readContent, nextContent_of_scanContent (by decide) hscan]
  cases r with
  | entity entity =>
    simp only [Reference.char?] at hchar
    simp only [bind, Except.bind, hchar, hread]
    rfl
  | character d =>
    simp only [Reference.char?] at hchar
    simp only [bind, Except.bind, hchar, hread]
    rfl

/-! ## Text -/

/-- A character as it is written in a text. -/
inductive EscapesText (c : Char) : List Char → Prop
  | itself (char : isXmlChar c) (plain : c ≠ '<' ∧ c ≠ '>' ∧ c ≠ '&' ∧ c ≠ '\r') :
    EscapesText c [c]
  | reference {name : List Char} (h : StandsFor name c) : EscapesText c ('&' :: name ++ [';'])

/-- Characters that belong to one piece of text. -/
def IsRun (run : List Char) : Prop :=
  ∀ c ∈ run, isXmlChar c ∧ c ≠ '<' ∧ c ≠ '>' ∧ c ≠ '&' ∧ c ≠ '\r' ∧ c ≠ '\n'

/-- A piece of text ends before these characters. -/
def EndsRun (rest : List Char) : Prop := ∃ c cs, rest = c :: cs ∧ (c = '<' ∨ c = '&' ∨ c = '\n')

/-- The end of a CDATA section does not start in a piece of text. -/
theorem IsRun.ne_cdataEnd {run : List Char} (h : IsRun run) (hrest : EndsRun rest)
    (tail : List Char) : run ++ rest ≠ ']' :: '>' :: tail := by
  obtain ⟨c, cs, rfl, hc⟩ := hrest
  intro heq
  match run with
  | [] =>
    obtain ⟨rfl, -⟩ := List.cons.inj heq
    revert hc
    decide
  | [_] =>
    obtain ⟨rfl, -⟩ := List.cons.inj (List.cons.inj heq).2
    revert hc
    decide
  | a :: b :: run =>
    obtain ⟨rfl, -⟩ := List.cons.inj (List.cons.inj heq).2
    exact (h '>' (by simp)).2.2.1 rfl

/-- A piece of text is scanned as a whole. -/
theorem scanData_append {run : List Char} (h : IsRun run) (hrest : EndsRun rest) :
    scanData (run ++ rest) = .ok (run, rest) := by
  induction run with
  | nil =>
    obtain ⟨c, cs, rfl, hc⟩ := hrest
    rcases hc with rfl | rfl | rfl <;> rfl
  | cons c run ih =>
    have hrun : IsRun run := fun d hd => h d (List.mem_cons_of_mem _ hd)
    obtain ⟨hchar, hlt, -, hamp, hreturn, hline⟩ := h c List.mem_cons_self
    rw [List.cons_append, scanData, if_neg (by simp [hchar, hlt, hamp, hreturn, hline]), ih hrun]
    · rfl
    · intro tail _ htail
      exact hrun.ne_cdataEnd hrest tail htail

theorem scanContent_run {run : List Char} (h : IsRun (c :: run)) (hrest : EndsRun rest)
    (ending : Ending) :
    scanContent ending (c :: (run ++ rest)) = .ok (.data (c :: run), rest) := by
  obtain ⟨hchar, hlt, -, hamp, hreturn, hline⟩ := h c List.mem_cons_self
  rw [scanContent, List.head?_cons, Option.any_some, if_pos hchar, ← List.cons_append,
    scanData_append h hrest]
  · rfl
  all_goals simp_all

variable {escape : Char → List Char} {t : List Char}

/-- A written text starts with a piece that is taken at once, which may be empty. -/
theorem exists_run (ht : ∀ c ∈ t, EscapesText c (escape c)) (rest : List Char) :
    ∃ run more, t = run ++ more ∧ IsRun run ∧ run.flatMap escape = run ∧
      EndsRun (more.flatMap escape ++ '<' :: rest) := by
  induction t with
  | nil =>
    exact ⟨[], [], rfl, fun c hc => absurd hc List.not_mem_nil, rfl, '<', rest, rfl, .inl rfl⟩
  | cons c t ih =>
    -- A character that is not written as itself, or that ends a line, leaves an empty piece.
    have hnone (d : Char) (tail : List Char) (hd : d = '<' ∨ d = '&' ∨ d = '\n')
        (hw : escape c = d :: tail) : ∃ run more, c :: t = run ++ more ∧ IsRun run ∧
          run.flatMap escape = run ∧ EndsRun (more.flatMap escape ++ '<' :: rest) :=
      ⟨[], c :: t, rfl, fun c hc => absurd hc List.not_mem_nil, rfl, d, _, by
        rw [List.flatMap_cons, hw]
        rfl, hd⟩
    generalize hw : escape c = written at hnone
    cases hw ▸ ht c List.mem_cons_self with
    | itself char plain =>
      by_cases hline : c = '\n'
      · exact hnone c [] (.inr (.inr hline)) rfl
      · obtain ⟨run, more, rfl, hrun, hescape, hends⟩ :=
          ih fun d hd => ht d (List.mem_cons_of_mem _ hd)
        refine ⟨c :: run, more, rfl, ?_, ?_, hends⟩
        · intro d hd
          rcases List.mem_cons.1 hd with rfl | hd
          · exact ⟨char, plain.1, plain.2.1, plain.2.2.1, plain.2.2.2, hline⟩
          · exact hrun d hd
        · rw [List.flatMap_cons, hw, hescape, List.singleton_append]
    | reference => exact hnone '&' _ (.inr (.inl rfl)) rfl

/-- Text in which special characters are escaped is read in front of a content. -/
theorem Reads.text (ht : ∀ c ∈ t, EscapesText c (escape c))
    (hrest : Reads e expand bindings ('<' :: rest) content) :
    Reads e expand bindings (t.flatMap escape ++ '<' :: rest) (content.consText t) := by
  -- A piece is taken at once, so the induction is on the number of characters.
  induction hn : t.length using Nat.strong_induction_on generalizing t with
  | _ n ih =>
    obtain ⟨run, more, rfl, hrun, hescape, hends⟩ := exists_run ht rest
    have hmore := fun d hd => ht d (List.mem_append_right run hd)
    rw [List.flatMap_append, hescape, List.append_assoc, Content.consText_append]
    cases run with
    | cons c run =>
      refine .data (hrun c List.mem_cons_self).2.2.2.2.1 (scanContent_run hrun hends _) ?_
        (ih more.length (by simp at hn; omega) hmore rfl)
      simp
    | nil =>
      cases more with
      | nil => exact hrest
      | cons c more =>
        -- What is not in a piece of text is the end of a line, or a reference.
        have htail := ih more.length (by simp at hn; omega)
          (fun d hd => hmore d (List.mem_cons_of_mem _ hd)) rfl
        change Reads e expand bindings ((c :: more).flatMap escape ++ '<' :: rest)
          (content.consText ([c] ++ more))
        rw [Content.consText_append]
        rw [List.flatMap_cons, List.append_assoc] at hends ⊢
        generalize hw : escape c = written at hends ⊢
        cases hw ▸ hmore c List.mem_cons_self with
        | itself char plain =>
          obtain ⟨d, _, hd, hstop⟩ := hends
          obtain ⟨rfl, -⟩ := List.cons.inj hd
          obtain rfl := (hstop.resolve_left plain.1).resolve_left plain.2.2.1
          exact .data (by decide) rfl (Nat.le_refl _) htail
        | reference h =>
          rw [List.append_assoc, List.singleton_append]
          exact htail.reference h

/-! ## Elements -/

theorem isEndNameChar_of_mem (h : PlainName name) (hc : c ∈ name) : isEndNameChar c := by
  rw [isEndNameChar, h.isNameChar hc, Bool.true_or]

theorem scanEndTag_append {ending : Ending} (h : PlainName name) (rest : List Char) :
    scanEndTag ending (name ++ '>' :: rest) = .ok (name, rest) := by
  cases name with
  | nil => cases h.starts
  | cons c cs =>
    have hcs : ∀ d ∈ cs, isEndNameChar d := fun d hd =>
      isEndNameChar_of_mem h (List.mem_cons_of_mem _ hd)
    have hc : isNameStart c := h.starts
    rw [List.cons_append, scanEndTag, if_pos hc, List.takeWhile_append_of_pos hcs,
      List.dropWhile_append_of_pos hcs]
    rw [List.takeWhile_cons_of_neg (by decide), List.dropWhile_cons_of_neg (by decide),
      List.dropWhile_cons_of_neg (by decide), List.append_nil]
    rfl

/-- The characters of an end tag. -/
def endTagChars (name : List Char) : List Char := '<' :: '/' :: name ++ ['>']

theorem endTagChars_append (name rest : List Char) :
    endTagChars name ++ rest = '<' :: '/' :: (name ++ '>' :: rest) := by
  simp [endTagChars]

/-- The end tag of an element ends its content. -/
theorem reads_endTag (h : PlainName name) (rest : List Char) :
    Reads e expand bindings (endTagChars name ++ rest)
      ⟨[], .endTag name (name ++ '>' :: rest).length, rest⟩ := by
  intro budget hbudget
  obtain ⟨n, rfl⟩ := Nat.exists_eq_succ_of_ne_zero (Nat.ne_of_gt (Nat.zero_lt_of_lt hbudget))
  have hscan : scanContent e.ending (endTagChars name ++ rest) =
      .ok (.endTag name (name ++ '>' :: rest).length, rest) := by
    rw [endTagChars_append, scanContent, scanMarkup, scanEndTag_append h]
    rfl
  rw [endTagChars_append] at hscan ⊢
  rw [readContent, nextContent_of_scanContent (by decide) hscan]
  rfl

variable {space : List Char} {closed : Bool}

/-- A start tag is scanned as a piece of content. -/
theorem scanContent_startTag (ending : Ending) (h : PlainName name)
    (as : List WrittenAttribute) (closed : Bool) (hspace : ∀ c ∈ space, isXmlSpace c)
    (rest : List Char) : ∃ raws,
      scanContent ending ('<' :: (tagChars name as closed space ++ rest)) =
        .ok (.startTag ⟨name, raws, closed⟩, rest) ∧ List.Forall₂ IsRaw raws as := by
  obtain ⟨raws, hscan, hall⟩ := scanStartTag_append (e := ending) h as closed hspace rest
  refine ⟨raws, ?_, hall⟩
  obtain ⟨c, cs, hc, hcs⟩ := h.tagChars_eq_cons as closed space rest
  rw [hcs] at hscan ⊢
  have hmarkup : scanMarkup ending (c :: cs) = .ok (.startTag ⟨name, raws, closed⟩, rest) := by
    have hbang := isNameStart_ne hc (d := '!') (by decide)
    have hquery := isNameStart_ne hc (d := '?') (by decide)
    have hslash := isNameStart_ne hc (d := '/') (by decide)
    rw [scanMarkup, hscan]
    · rfl
    all_goals simp_all
  exact hmarkup

/-- An element comes before what follows it. Its own content is read up to its end
    tag. -/
theorem Reads.element {body after : List Char} {nodes : List Node} {left : Nat}
    {as : List WrittenAttribute} (hafter : Reads e expand bindings after content)
    (h : PlainName name) (hnodup : (as.map (·.name)).Nodup)
    (hspace : ∀ c ∈ space, isXmlSpace c) (hfree : bindings.space? [] = none)
    (hbody : Reads e expand bindings body ⟨nodes, .endTag name left, after⟩)
    (hlength : after.length ≤ body.length) :
    Reads e expand bindings ('<' :: (tagChars name as false space ++ body))
      ⟨.element (.plain (String.ofList name)) (as.map (·.meaning)) nodes :: content.nodes,
        content.ending, content.rest⟩ := by
  intro budget hbudget
  obtain ⟨n, rfl⟩ := Nat.exists_eq_succ_of_ne_zero (Nat.ne_of_gt (Nat.zero_lt_of_lt hbudget))
  rw [List.length_cons, List.length_append] at hbudget
  obtain ⟨raws, hscan, hall⟩ := scanContent_startTag e.ending h as false hspace body
  have hopen := openTag_of_written bindings h hall hnodup hfree false
  rw [readContent, nextContent_of_scanContent (by decide) hscan]
  simp only [bind, Except.bind, hopen, hbody n (by omega), hafter n (by omega)]
  rw [if_neg Bool.false_ne_true, if_neg (by simp)]
  rfl

/-- So does an element that its start tag closes. -/
theorem Reads.closedElement {after : List Char} {as : List WrittenAttribute}
    (hafter : Reads e expand bindings after content) (h : PlainName name)
    (hnodup : (as.map (·.name)).Nodup) (hspace : ∀ c ∈ space, isXmlSpace c)
    (hfree : bindings.space? [] = none) :
    Reads e expand bindings ('<' :: (tagChars name as true space ++ after))
      ⟨.element (.plain (String.ofList name)) (as.map (·.meaning)) [] :: content.nodes,
        content.ending, content.rest⟩ := by
  intro budget hbudget
  obtain ⟨n, rfl⟩ := Nat.exists_eq_succ_of_ne_zero (Nat.ne_of_gt (Nat.zero_lt_of_lt hbudget))
  rw [List.length_cons, List.length_append] at hbudget
  obtain ⟨raws, hscan, hall⟩ := scanContent_startTag e.ending h as true hspace after
  have hopen := openTag_of_written bindings h hall hnodup hfree true
  rw [readContent, nextContent_of_scanContent (by decide) hscan]
  simp only [bind, Except.bind, hopen, hafter n (by omega)]
  rfl

end JavaBuild.Xml
