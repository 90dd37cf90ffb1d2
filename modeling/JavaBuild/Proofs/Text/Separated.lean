import Mathlib.Data.List.Basic

/-!
# Texts with separators

Texts that are joined with a separator between them are found again by splitting at it, if none
of them holds it (`splitOn_intercalate`), so no other texts are joined to the same
(`eq_of_intercalate_eq`). What a text is split into holds no separator (`notMem_of_mem_splitOn`)
and is joined to the text again (`intercalate_splitOn`).
-/

namespace JavaBuild.Text

variable {c sep : Char} {cs part : List Char} {text separator first last : String}
  {texts others : List String}

/-! ## Joining -/

/-- In texts with separators between them there is nothing else. -/
theorem mem_intercalate_iff (hc : c ∉ separator.toList) (texts : List String) :
    c ∈ (separator.intercalate texts).toList ↔ ∃ text ∈ texts, c ∈ text.toList := by
  induction texts with
  | nil => simp
  | cons text texts ih =>
    cases texts with
    | nil => simp
    | cons next texts =>
      rw [String.intercalate_cons_cons, String.toList_append, String.toList_append,
        List.mem_append, List.mem_append, ih]
      simp only [List.mem_cons, exists_eq_or_imp, hc, or_false]

/-- Joined texts start as the first of them does, … -/
theorem head?_intercalate (h : first ≠ "") (rest : List String) :
    (separator.intercalate (first :: rest)).toList.head? = first.toList.head? := by
  cases rest with
  | nil => rw [String.intercalate_singleton]
  | cons next rest =>
    rw [String.intercalate_cons_cons, String.append_assoc, String.toList_append,
      List.head?_append_of_ne_nil]
    simpa using h

/-- … and end as the last of them does. -/
theorem getLast?_intercalate (h : last ≠ "") (rest : List String) :
    (separator.intercalate (rest ++ [last])).toList.getLast? = last.toList.getLast? := by
  by_cases hrest : rest = []
  · rw [hrest, List.nil_append, String.intercalate_singleton]
  · rw [String.intercalate_append_of_ne_nil hrest (List.cons_ne_nil _ _), String.toList_append,
      String.intercalate_singleton, List.getLast?_append_of_ne_nil]
    simpa using h

/-! ## Splitting -/

/-- A part has characters of the text, but not the one at which it has been split. -/
theorem of_mem_splitOn (hp : part ∈ cs.splitOn sep) (hc : c ∈ part) : c ∈ cs ∧ c ≠ sep := by
  induction cs generalizing part with
  | nil =>
    rw [List.splitOn_nil, List.mem_singleton] at hp
    rw [hp] at hc
    cases hc
  | cons d cs ih =>
    rw [List.splitOn_cons_eq_if_modifyHead] at hp
    split at hp
    · rcases List.mem_cons.1 hp with rfl | hp
      · cases hc
      · exact (ih hp hc).imp_left (List.mem_cons_of_mem _)
    · -- A character that does not separate is put in front of the first part.
      rename_i hd
      obtain ⟨head, parts, hparts⟩ := List.exists_cons_of_ne_nil (List.splitOn_ne_nil sep cs)
      rw [hparts] at hp ih
      rcases List.mem_cons.1 hp with rfl | hp
      · rcases List.mem_cons.1 hc with rfl | hc
        · exact ⟨List.mem_cons_self, by simpa using hd⟩
        · exact (ih List.mem_cons_self hc).imp_left (List.mem_cons_of_mem _)
      · exact (ih (List.mem_cons_of_mem _ hp) hc).imp_left (List.mem_cons_of_mem _)

theorem notMem_of_mem_splitOn (h : text ∈ (cs.splitOn sep).map String.ofList) :
    sep ∉ text.toList := by
  intro hsep
  obtain ⟨part, hpart, rfl⟩ := List.mem_map.1 h
  rw [String.toList_ofList] at hsep
  exact (of_mem_splitOn hpart hsep).2 rfl

/-- Texts with separators between them are split into these texts. -/
theorem splitOn_intercalate (hseparator : separator.toList = [sep]) (hne : texts ≠ [])
    (h : ∀ text ∈ texts, sep ∉ text.toList) :
    ((separator.intercalate texts).toList.splitOn sep).map String.ofList = texts := by
  rw [String.toList_intercalate, hseparator,
    List.splitOn_intercalate sep (by simpa using h) (by simpa using hne), List.map_map]
  simp

/-- What a text is split into makes this text. -/
theorem intercalate_splitOn (hseparator : separator.toList = [sep]) (cs : List Char) :
    separator.intercalate ((cs.splitOn sep).map String.ofList) = String.ofList cs := by
  rw [← String.toList_inj, String.toList_intercalate, List.map_map, hseparator,
    String.toList_ofList]
  simp [List.intercalate_splitOn]

/-- Joined texts can be told apart if none of them holds the separator. -/
theorem eq_of_intercalate_eq (hseparator : separator.toList = [sep])
    (htexts : ∀ text ∈ texts, sep ∉ text.toList) (hothers : ∀ text ∈ others, sep ∉ text.toList)
    (hne : texts ≠ []) (hne' : others ≠ [])
    (h : separator.intercalate texts = separator.intercalate others) : texts = others := by
  rw [← splitOn_intercalate hseparator hne htexts, h,
    splitOn_intercalate hseparator hne' hothers]

end JavaBuild.Text
