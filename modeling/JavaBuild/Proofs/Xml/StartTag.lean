import JavaBuild.Proofs.Xml.Value
import Mathlib.Data.List.Forall2
import Mathlib.Data.List.TakeWhile

/-!
# Reading written tags

A start tag that is written with plain names and with values that can be scanned is
scanned as a whole (`scanStartTag_append`) and opened as it is meant
(`openTag_of_written`): with its name, and each attribute with its text.
-/

namespace JavaBuild.Xml

variable {e : Ending} {c : Char} {name rest : List Char}

/-! ## Names -/

/-- A name without a label. -/
structure PlainName (name : List Char) : Prop where
  starts : name.head?.any isNameStart
  goes : ∀ c ∈ name.tail, isNameChar c

instance (name : List Char) : Decidable (PlainName name) :=
  decidable_of_iff (name.head?.any isNameStart ∧ ∀ c ∈ name.tail, isNameChar c)
    ⟨fun h => ⟨h.1, h.2⟩, fun h => ⟨h.starts, h.goes⟩⟩

/-- A name ends before these characters. -/
def Stops (rest : List Char) : Prop := ∀ c ∈ rest.head?, isNameChar c = false ∧ c ≠ ':'

theorem isNameChar_of_isNameStart (h : isNameStart c) : isNameChar c := by
  rw [isNameStart] at h
  rw [isNameChar]
  split
  · rename_i hc
    rw [if_pos hc, Bool.or_eq_true] at h
    rcases h with h | h
    · simp [Char.isAlphanum, h]
    · simp [h]
  · rename_i hc
    rw [if_neg hc] at h
    simp [h]

theorem PlainName.isNameChar (h : PlainName name) (hc : c ∈ name) : isNameChar c := by
  cases name with
  | nil => cases hc
  | cons d name =>
    rcases List.mem_cons.1 hc with rfl | hc
    · exact isNameChar_of_isNameStart h.starts
    · exact h.goes c hc

/-- A plain name has no label. -/
theorem PlainName.not_mem (h : PlainName name) : ':' ∉ name := fun hc => by
  have := h.isNameChar hc
  revert this
  decide

/-- A name starts with none of the characters that mean something else. -/
theorem isNameStart_ne (h : isNameStart c) {d : Char} (hd : isNameStart d = false) : c ≠ d := by
  rintro rfl
  rw [h] at hd
  cases hd

theorem isXmlSpace_of_isNameStart (h : isNameStart c) : isXmlSpace c = false := by
  rw [isXmlSpace]
  simp only [Bool.or_eq_false_iff, beq_eq_false_iff_ne]
  exact ⟨⟨⟨isNameStart_ne h (by decide), isNameStart_ne h (by decide)⟩,
    isNameStart_ne h (by decide)⟩, isNameStart_ne h (by decide)⟩

/-- A name is scanned up to what stops it, … -/
theorem scanName_append (h : PlainName name) (hrest : Stops rest) :
    scanName e (name ++ rest) = .ok (name, rest) := by
  obtain ⟨hstart, hgo⟩ := h
  cases name with
  | nil => cases hstart
  | cons c cs =>
    have htake : rest.takeWhile Xml.isNameChar = [] ∧ rest.dropWhile Xml.isNameChar = rest := by
      cases rest with
      | nil => exact ⟨rfl, rfl⟩
      | cons d rest => simp [(hrest d rfl).1]
    have hc : isNameStart c := hstart
    have hcs : ∀ d ∈ cs, Xml.isNameChar d := hgo
    rw [List.cons_append, scanName, if_pos hc, List.takeWhile_append_of_pos hcs,
      List.dropWhile_append_of_pos hcs, htake.1, htake.2, List.append_nil]

/-- … also where it might have a label, … -/
theorem scanQualified_append (h : PlainName name) (hrest : Stops rest) :
    scanQualified e (name ++ rest) = .ok (name, rest) := by
  rw [scanQualified, scanName_append h hrest]
  cases rest with
  | nil => rfl
  | cons d rest =>
    have hd := (hrest d rfl).2
    simp only [bind, Except.bind]
    split
    · rename_i heq
      exact absurd (List.cons.inj heq).1 hd
    · rfl

/-- … which it has not. -/
theorem splitLabel_plain (h : PlainName name) : splitLabel name = (none, name) := by
  have hdrop : name.dropWhile (· != ':') = [] := by
    refine List.dropWhile_eq_nil_iff.2 fun c hc => ?_
    refine bne_iff_ne.2 ?_
    rintro rfl
    exact h.not_mem hc
  rw [splitLabel, hdrop]

/-! ## Attributes -/

/-- There is white space, and nothing else. -/
def IsXmlGap (gap : List Char) : Prop := gap ≠ [] ∧ ∀ c ∈ gap, isXmlSpace c

instance (gap : List Char) : Decidable (IsXmlGap gap) :=
  inferInstanceAs (Decidable (gap ≠ [] ∧ ∀ c ∈ gap, isXmlSpace c))

/-- An attribute as it is written: its value is scanned between quotes, and read as a
    text. A gap stands in front of it. -/
structure WrittenAttribute where
  name : List Char
  value : List Char
  text : List Char
  plain : PlainName name
  free : name ≠ "xmlns".toList
  scanned : ∀ e rest, scanValue e '"' (value ++ '"' :: rest) = .ok (value, rest)
  read : attributeText {} true value = .ok text
  gap : List Char := [' ']
  spaced : IsXmlGap gap := by decide

namespace WrittenAttribute

/-- The characters of an attribute. -/
def chars (a : WrittenAttribute) : List Char := a.name ++ '=' :: '"' :: a.value ++ ['"']

/-- The attribute that is meant. -/
def meaning (a : WrittenAttribute) : Attribute :=
  ⟨.plain (String.ofList a.name), String.ofList a.text⟩

/-- An attribute with a value in which special characters are escaped. -/
def escaped (name value : List Char) (plain : PlainName name) (free : name ≠ "xmlns".toList)
    (hv : ∀ c ∈ value, isXmlChar c) : WrittenAttribute where
  name
  value := value.flatMap Checkstyle.escapeChar
  text := blanked value
  plain
  free
  scanned e rest := scanValue_escaped escapes_escapeChar hv
  read := by
    rw [attributeText, readValue_escaped]
    rfl

end WrittenAttribute

/-- A raw attribute has been scanned from a written one. -/
def IsRaw (raw : RawAttribute) (a : WrittenAttribute) : Prop :=
  raw.name = a.name ∧ raw.value = a.value

/-- A written attribute is scanned, whatever follows. -/
theorem scanAttribute_append (a : WrittenAttribute) (rest : List Char) :
    ∃ raw, scanAttribute e (a.chars ++ rest) = .ok (raw, rest) ∧ IsRaw raw a := by
  have hstops : Stops ('=' :: '"' :: (a.value ++ '"' :: rest)) := by
    intro c hc
    obtain rfl := Option.some.inj hc
    decide
  have hchars : a.chars ++ rest = a.name ++ '=' :: '"' :: (a.value ++ '"' :: rest) := by
    simp [WrittenAttribute.chars]
  rw [hchars, scanAttribute, scanQualified_append a.plain hstops]
  simp only [bind, Except.bind]
  rw [List.dropWhile_cons_of_neg (by decide)]
  simp only
  rw [List.dropWhile_cons_of_neg (by decide)]
  simp only
  rw [if_pos (.inl trivial), a.scanned]
  exact ⟨_, rfl, rfl, rfl⟩

/-- The end of a start tag. -/
def tagEnd (closed : Bool) : List Char := if closed then "/>".toList else ['>']

/-- The characters of attributes, each after its gap. -/
def attributeChars (as : List WrittenAttribute) : List Char := as.flatMap fun a => a.gap ++ a.chars

/-- White space at a place does not change what is scanned for attributes there. -/
theorem dropWhile_gap {gap : List Char} (h : ∀ c ∈ gap, isXmlSpace c) (hc : isXmlSpace c = false)
    (rest : List Char) : (gap ++ c :: rest).dropWhile isXmlSpace = c :: rest := by
  rw [List.dropWhile_append_of_pos h, List.dropWhile_cons_of_neg (by simp [hc])]

/-- What is scanned for the attributes and the end of a tag. -/
theorem scanAttributes_append (closed : Bool) {space : List Char}
    (hspace : ∀ c ∈ space, isXmlSpace c) (rest : List Char) (as : List WrittenAttribute)
    (budget : Nat) (hbudget : as.length < budget) :
    ∃ raws, scanAttributes e budget
        (attributeChars as ++ (space ++ (tagEnd closed ++ rest))) =
          .ok ((raws, closed), rest) ∧ List.Forall₂ IsRaw raws as := by
  induction as generalizing budget with
  | nil =>
    -- The end of the tag takes one from the budget, too.
    obtain ⟨n, rfl⟩ := Nat.exists_eq_succ_of_ne_zero (Nat.ne_of_gt hbudget)
    refine ⟨[], ?_, .nil⟩
    change scanAttributes e (n + 1) (space ++ (tagEnd closed ++ rest)) = _
    cases closed with
    | true =>
      change scanAttributes e (n + 1) (space ++ '/' :: '>' :: rest) = _
      rw [scanAttributes, dropWhile_gap hspace (by decide)]
      rfl
    | false =>
      change scanAttributes e (n + 1) (space ++ '>' :: rest) = _
      rw [scanAttributes, dropWhile_gap hspace (by decide)]
      rfl
  | cons a as ih =>
    obtain ⟨n, rfl⟩ := Nat.exists_eq_succ_of_ne_zero (Nat.ne_of_gt (Nat.zero_lt_of_lt hbudget))
    obtain ⟨raws, hraws, hall⟩ := ih n (Nat.lt_of_succ_lt_succ hbudget)
    obtain ⟨raw, hraw, ha⟩ := scanAttribute_append (e := e) a
      (attributeChars as ++ (space ++ (tagEnd closed ++ rest)))
    refine ⟨raw :: raws, ?_, .cons ha hall⟩
    rw [attributeChars, List.flatMap_cons, List.append_assoc, List.append_assoc, ← attributeChars]
    -- An attribute starts with a name, and so is not taken for the end of the tag.
    obtain ⟨c, cs, hc, hchars⟩ : ∃ c cs, isNameStart c ∧ a.chars = c :: cs := by
      have hstart := a.plain.starts
      rw [WrittenAttribute.chars]
      generalize a.name = name at hstart ⊢
      cases name with
      | nil => cases hstart
      | cons c cs => exact ⟨c, _, hstart, rfl⟩
    obtain ⟨hne, hgap⟩ := a.spaced
    have hhead (tail : List Char) : (a.gap ++ tail).head?.any isXmlSpace := by
      obtain ⟨d, ds, hgaps⟩ := List.exists_cons_of_ne_nil hne
      rw [hgaps] at hgap ⊢
      exact hgap d List.mem_cons_self
    rw [hchars, List.cons_append] at hraw ⊢
    have hgt := isNameStart_ne hc (d := '>') (by decide)
    have hslash := isNameStart_ne hc (d := '/') (by decide)
    rw [scanAttributes, dropWhile_gap hgap (isXmlSpace_of_isNameStart hc)]
    simp only
    rw [if_neg (by simp [hgt, hslash]), if_pos (hhead _)]
    simp only [bind, Except.bind, hraw, hraws]
    rfl

/-- The characters of a start tag, after its `<`. White space may stand before its end. -/
def tagChars (name : List Char) (as : List WrittenAttribute) (closed : Bool)
    (space : List Char := []) : List Char :=
  name ++ (attributeChars as ++ (space ++ tagEnd closed))

variable {space : List Char}

/-- A start tag starts with the first character of its name. -/
theorem PlainName.tagChars_eq_cons (h : PlainName name) (as : List WrittenAttribute)
    (closed : Bool) (space rest : List Char) :
    ∃ c cs, isNameStart c ∧ tagChars name as closed space ++ rest = c :: cs := by
  have hstart := h.starts
  rw [tagChars]
  cases name with
  | nil => cases hstart
  | cons c cs => exact ⟨c, _, hstart, rfl⟩

/-- The end of a tag does not go on with its name. -/
theorem stops_tagEnd (closed : Bool) (rest : List Char) : Stops (tagEnd closed ++ rest) := by
  intro c hc
  cases closed with
  | true =>
    obtain rfl := Option.some.inj hc
    decide
  | false =>
    obtain rfl := Option.some.inj hc
    decide

/-- Nor does white space. -/
theorem stops_of_isXmlSpace (h : isXmlSpace c) (rest : List Char) : Stops (c :: rest) := by
  intro d hd
  obtain rfl := Option.some.inj hd
  simp only [isXmlSpace, Bool.or_eq_true, beq_iff_eq] at h
  obtain ((rfl | rfl) | rfl) | rfl := h <;> decide

theorem stops_append {gap : List Char} (hgap : ∀ c ∈ gap, isXmlSpace c) (hrest : Stops rest) :
    Stops (gap ++ rest) := by
  cases gap with
  | nil => exact hrest
  | cons c gap => exact stops_of_isXmlSpace (hgap c List.mem_cons_self) (gap ++ rest)

/-- A start tag is scanned with all of its attributes, whatever follows. -/
theorem scanStartTag_append (h : PlainName name) (as : List WrittenAttribute) (closed : Bool)
    (hspace : ∀ c ∈ space, isXmlSpace c) (rest : List Char) : ∃ raws,
      scanStartTag e (tagChars name as closed space ++ rest) = .ok (⟨name, raws, closed⟩, rest) ∧
        List.Forall₂ IsRaw raws as := by
  -- The name ends at the gap before the first attribute, or at the end of the tag.
  have hstops : Stops (attributeChars as ++ (space ++ (tagEnd closed ++ rest))) := by
    cases as with
    | nil =>
      rw [attributeChars, List.flatMap_nil, List.nil_append]
      exact stops_append hspace (stops_tagEnd closed rest)
    | cons a as =>
      obtain ⟨hne, hgap⟩ := a.spaced
      obtain ⟨d, ds, hgaps⟩ := List.exists_cons_of_ne_nil hne
      rw [hgaps] at hgap
      rw [attributeChars, List.flatMap_cons, hgaps]
      exact stops_of_isXmlSpace (hgap d List.mem_cons_self) _
  -- The budget is the number of characters, and each attribute has its gap.
  have hlength (as : List WrittenAttribute) : as.length ≤ (attributeChars as).length := by
    induction as with
    | nil => exact Nat.le_refl 0
    | cons a as ih =>
      have hgap := List.length_pos_iff.2 a.spaced.1
      rw [attributeChars, List.flatMap_cons, List.length_append, List.length_append,
        List.length_cons, ← attributeChars]
      omega
  obtain ⟨raws, hraws, hall⟩ := scanAttributes_append (e := e) closed hspace rest as
    ((attributeChars as ++ (space ++ (tagEnd closed ++ rest))).length + 1) <| by
      rw [List.length_append]
      have := hlength as
      omega
  refine ⟨raws, ?_, hall⟩
  rw [tagChars, List.append_assoc, List.append_assoc, List.append_assoc, scanStartTag,
    scanQualified_append h hstops]
  simp only [bind, Except.bind, hraws]
  rfl

/-! ## Opening tags -/

variable (bindings : Bindings) {raws : List RawAttribute} {as : List WrittenAttribute}

theorem boundLabel?_of_plain (a : WrittenAttribute) : boundLabel? a.name = none := by
  rw [boundLabel?, splitLabel_plain a.plain]
  exact if_neg a.free

/-- The values of attributes of different names are read, … -/
theorem readAttributes_of_written (hall : List.Forall₂ IsRaw raws as) (element : List Char)
    (seen : List (List Char)) (hnodup : (as.map (·.name)).Nodup)
    (hseen : ∀ a ∈ as, a.name ∉ seen) :
    readAttributes {} element bindings seen raws =
      .ok (as.map fun a => (a.name, a.text), bindings) := by
  induction hall generalizing seen with
  | nil => rfl
  | @cons raw a raws as hraw hall ih =>
    rw [List.map_cons, List.nodup_cons] at hnodup
    have hnew : a.name ∉ seen := hseen a List.mem_cons_self
    have hrest := ih (a.name :: seen) hnodup.2 fun b hb hc => by
      rcases List.mem_cons.1 hc with hc | hc
      · exact hnodup.1 (hc ▸ List.mem_map_of_mem hb)
      · exact hseen b (List.mem_cons_of_mem _ hb) hc
    have hread : attributeText ({} : Doctype).entities true a.value = .ok a.text := a.read
    rw [readAttributes, hraw.1, hraw.2, if_neg (by simpa using hnew)]
    simp only [bind, Except.bind, pure, Except.pure]
    rw [show (({} : Doctype).rule? element a.name).map (·.blanksCount) = none from rfl]
    simp only [Option.getD_none, hread, boundLabel?_of_plain, hrest]
    rfl

/-- … and their names are in no namespace. -/
theorem resolveAttributes_of_written (seen : List Name) (hnodup : (as.map (·.name)).Nodup)
    (hseen : ∀ a ∈ as, a.meaning.name ∉ seen) :
    resolveAttributes bindings seen (as.map fun a => (a.name, a.text)) =
      .ok (as.map (·.meaning)) := by
  induction as generalizing seen with
  | nil => rfl
  | cons a as ih =>
    rw [List.map_cons, List.nodup_cons] at hnodup
    have hname : bindings.attributeName a.name = .ok a.meaning.name := by
      rw [Bindings.attributeName, splitLabel_plain a.plain]
      rfl
    have hnew := hseen a List.mem_cons_self
    have hrest := ih (a.meaning.name :: seen) hnodup.2 fun b hb hc => by
      rcases List.mem_cons.1 hc with hc | hc
      · have heq : b.name = a.name := String.ofList_injective (congrArg Name.base hc)
        exact hnodup.1 (heq ▸ List.mem_map_of_mem hb)
      · exact hseen b (List.mem_cons_of_mem _ hb) hc
    rw [List.map_cons, resolveAttributes, hname]
    simp only [bind, Except.bind]
    rw [if_neg (by simpa using hnew)]
    simp only [pure, Except.pure, hrest]
    rfl

/-- A tag with plain names is opened without changing the bindings. -/
theorem openTag_of_written (h : PlainName name) (hall : List.Forall₂ IsRaw raws as)
    (hnodup : (as.map (·.name)).Nodup) (hspace : bindings.space? [] = none) (closed : Bool) :
    openTag {} bindings ⟨name, raws, closed⟩ =
      .ok (.plain (String.ofList name), as.map (·.meaning), bindings) := by
  have hname : bindings.elementName name = .ok (.plain (String.ofList name)) := by
    rw [Bindings.elementName, splitLabel_plain h, hspace]
    rfl
  have hread := readAttributes_of_written bindings hall name [] hnodup
    fun _ _ => List.not_mem_nil
  have hresolve := resolveAttributes_of_written bindings [] hnodup
    fun _ _ => List.not_mem_nil
  rw [openTag, hread]
  simp only [bind, Except.bind]
  rw [show ({} : Doctype).rules.filter (fun r => r.element == name) = [] from rfl]
  simp only [defaultAttributes, atTag, List.append_nil, hresolve, hname]
  rfl

end JavaBuild.Xml
