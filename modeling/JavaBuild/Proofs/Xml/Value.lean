import JavaBuild.Checkstyle.Summary
import JavaBuild.Proofs.Result
import JavaBuild.Xml.Tag
import Mathlib.Data.Bool.AllAny
import Mathlib.Tactic.ByContra

/-!
# Reading escaped values

A reference may stand for a character without any declaration (`StandsFor`). A
value of an attribute in which the special characters are escaped by such references
is scanned up to its closing quote (`scanValue_escaped`) and read again as the
characters that were escaped, but for white space (`readValue_escaped`).
-/

namespace JavaBuild.Xml

/-! ## References -/

/-- The character that a reference stands for without any declaration. -/
def Reference.char? : Reference → Option Char
  | .entity name => predefined? name
  | .character c => c

/-- What is written between `&` and `;` stands for a character. -/
structure StandsFor (name : List Char) (c : Char) : Prop where
  scanned : ∃ r, (∀ e rest, scanReference e (name ++ ';' :: rest) = .ok (r, rest)) ∧
    r.char? = some c
  plain : ∀ d ∈ name, isXmlChar d ∧ d ≠ '"' ∧ d ≠ '<' ∧ d ≠ '&' ∧ d ≠ ';'

/-- A character as it is written in a value. -/
inductive Escapes (c : Char) : List Char → Prop
  | itself (h : c ≠ '"' ∧ c ≠ '<' ∧ c ≠ '&') : Escapes c [c]
  | reference {name : List Char} (h : StandsFor name c) : Escapes c ('&' :: name ++ [';'])

theorem standsFor_amp : StandsFor "amp".toList '&' :=
  ⟨⟨.entity "amp".toList, fun _ _ => rfl, rfl⟩, List.all_iff_forall_prop.1 rfl⟩

theorem standsFor_lt : StandsFor "lt".toList '<' :=
  ⟨⟨.entity "lt".toList, fun _ _ => rfl, rfl⟩, List.all_iff_forall_prop.1 rfl⟩

theorem standsFor_gt : StandsFor "gt".toList '>' :=
  ⟨⟨.entity "gt".toList, fun _ _ => rfl, rfl⟩, List.all_iff_forall_prop.1 rfl⟩

theorem standsFor_quot : StandsFor "quot".toList '"' :=
  ⟨⟨.entity "quot".toList, fun _ _ => rfl, rfl⟩, List.all_iff_forall_prop.1 rfl⟩

theorem standsFor_apos : StandsFor "#x27".toList '\'' :=
  ⟨⟨.character '\'', fun _ _ => rfl, rfl⟩, List.all_iff_forall_prop.1 rfl⟩

/-- A page's escapes stand for the characters that they are written for. -/
theorem escapes_escapeChar (c : Char) : Escapes c (Checkstyle.escapeChar c) := by
  rw [Checkstyle.escapeChar.eq_def]
  split
  · exact .reference standsFor_amp
  · exact .reference standsFor_lt
  · exact .reference standsFor_gt
  · exact .reference standsFor_quot
  · exact .reference standsFor_apos
  · rename_i hamp hlt _ hquot _
    exact .itself ⟨hquot, hlt, hamp⟩

/-! ## Scanning values -/

variable {e : Ending} {c : Char} {cs name written value rest : List Char}

/-- A character that is not special belongs to the value. -/
theorem scanValue_plain (hc : isXmlChar c) (hquote : c ≠ '"') (hlt : c ≠ '<') (hamp : c ≠ '&') :
    scanValue e '"' (c :: cs) =
      (scanValue e '"' cs).map fun (value, rest) => (c :: value, rest) := by
  rw [scanValue, if_neg hquote, if_neg (by simp [hlt, hc]), if_neg hamp]
  cases scanValue e '"' cs <;> rfl

/-- So do characters, one after the other, that are not special. -/
theorem scanValue_append (h : ∀ d ∈ name, isXmlChar d ∧ d ≠ '"' ∧ d ≠ '<' ∧ d ≠ '&') :
    scanValue e '"' (name ++ cs) =
      (scanValue e '"' cs).map fun (value, rest) => (name ++ value, rest) := by
  induction name with
  | nil =>
    rw [List.nil_append]
    cases scanValue e '"' cs <;> rfl
  | cons d name ih =>
    obtain ⟨hd, hquote, hlt, hamp⟩ := h d List.mem_cons_self
    rw [List.cons_append, scanValue_plain hd hquote hlt hamp,
      ih fun c hc => h c (List.mem_cons_of_mem _ hc)]
    cases scanValue e '"' cs <;> rfl

theorem scanValue_reference (h : StandsFor name c) :
    scanValue e '"' ('&' :: name ++ ';' :: cs) =
      (scanValue e '"' cs).map fun (value, rest) => ('&' :: name ++ ';' :: value, rest) := by
  obtain ⟨r, hr, -⟩ := h.scanned
  -- A reference is only looked at; its characters are scanned like others.
  have hname : scanValue e '"' (name ++ ';' :: cs) = _ := scanValue_append fun d hd =>
    ⟨(h.plain d hd).1, (h.plain d hd).2.1, (h.plain d hd).2.2.1, (h.plain d hd).2.2.2.1⟩
  rw [scanValue_plain (c := ';') (by decide) (by decide) (by decide) (by decide)] at hname
  rw [List.cons_append, scanValue, if_neg (by decide), if_neg (by decide), if_pos rfl, hr, hname]
  cases scanValue e '"' cs <;> rfl

theorem scanValue_escape (h : Escapes c written) (hc : isXmlChar c) :
    scanValue e '"' (written ++ cs) =
      (scanValue e '"' cs).map fun (value, rest) => (written ++ value, rest) := by
  cases h with
  | itself h => exact scanValue_plain hc h.1 h.2.1 h.2.2
  | reference h =>
    rw [List.append_assoc, List.singleton_append, scanValue_reference h]
    cases scanValue e '"' cs with
    | error f => rfl
    | ok found => simp [Except.map]

/-- A value is scanned up to its closing quote if all of its characters are escaped. -/
theorem scanValue_escaped {escape : Char → List Char} (h : ∀ c, Escapes c (escape c))
    (hv : ∀ c ∈ value, isXmlChar c) :
    scanValue e '"' (value.flatMap escape ++ '"' :: rest) = .ok (value.flatMap escape, rest) := by
  induction value with
  | nil => exact if_pos rfl
  | cons c value ih =>
    rw [List.flatMap_cons, List.append_assoc, scanValue_escape (h c) (hv c List.mem_cons_self),
      ih fun d hd => hv d (List.mem_cons_of_mem _ hd)]
    rfl

/-! ## Reading values -/

/-- A value in which white space counts as blanks, and the end of a line as one. -/
def blanked : List Char → List Char
  | [] => []
  | '\r' :: '\n' :: cs => ' ' :: blanked cs
  | c :: cs => (if isXmlSpace c then ' ' else c) :: blanked cs

variable {expand : List Char → Except (XmlFault × Bool) (List Char)}

/-- What is passed over is what has been replaced. -/
theorem readValue_passing (h : ∀ d ∈ name, d ≠ ';') :
    readValue expand true (name ++ ';' :: cs) = readValue expand false cs := by
  induction name with
  | nil => rfl
  | cons d name ih =>
    have hd : (d != ';') = true := bne_iff_ne.2 (h d List.mem_cons_self)
    rw [List.cons_append, readValue, hd]
    exact ih fun c hc => h c (List.mem_cons_of_mem _ hc)

theorem readValue_reference (h : StandsFor name c) :
    readValue expand false ('&' :: name ++ ';' :: cs) =
      (readValue expand false cs).map (c :: ·) := by
  obtain ⟨r, hr, hc⟩ := h.scanned
  -- When a reference has been replaced, it is passed over up to its end.
  have hpass : readValue expand true (name ++ ';' :: cs) = _ :=
    readValue_passing fun d hd => (h.plain d hd).2.2.2.2
  rw [List.cons_append, readValue, if_pos rfl, hr]
  · cases r with
    | entity n =>
      simp only [Reference.char?] at hc
      simp only [hc, hpass]
    | character d =>
      simp only [Reference.char?] at hc
      simp only [hc, hpass]
  · intro _ hcr
    exact absurd hcr (by decide)

/-- The end of a line is escaped as it is. -/
theorem eq_cons_of_flatMap_escapeChar {v t : List Char}
    (h : v.flatMap Checkstyle.escapeChar = '\n' :: t) : ∃ w, v = '\n' :: w := by
  cases v with
  | nil => cases h
  | cons c v =>
    rw [List.flatMap_cons] at h
    generalize hw : Checkstyle.escapeChar c = written at h
    cases hw ▸ escapes_escapeChar c with
    | itself =>
      rw [List.singleton_append] at h
      exact ⟨v, by rw [(List.cons.inj h).1]⟩
    | reference => exact absurd (List.cons.inj h).1 (by decide)

/-- A value that has been escaped is read again, but for white space. -/
theorem readValue_escaped (v : List Char) :
    readValue expand false (v.flatMap Checkstyle.escapeChar) = .ok (blanked v) := by
  fun_induction blanked v with
  | case1 => rfl
  | case2 cs ih =>
    -- An end of line of two characters is read as one blank.
    change readValue expand false ('\r' :: '\n' :: cs.flatMap Checkstyle.escapeChar) = _
    rw [readValue, ih]
    rfl
  | case3 c cs hline ih =>
    rw [List.flatMap_cons]
    generalize hw : Checkstyle.escapeChar c = written
    cases hw ▸ escapes_escapeChar c with
    | itself h =>
      rw [List.singleton_append, readValue, if_neg h.2.2, if_neg h.2.1, ih]
      · rfl
      · intro t hc ht
        obtain ⟨w, hcs⟩ := eq_cons_of_flatMap_escapeChar ht
        exact hline w hc hcs
    | reference h =>
      -- White space is not written as a reference.
      have hspace : isXmlSpace c = false := by
        rw [isXmlSpace]
        by_contra hc
        simp only [Bool.not_eq_false, Bool.or_eq_true, beq_iff_eq] at hc
        obtain ((rfl | rfl) | rfl) | rfl := hc <;> cases hw
      rw [List.append_assoc, List.singleton_append, readValue_reference h, ih, hspace]
      rfl

end JavaBuild.Xml
