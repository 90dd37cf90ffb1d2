import JavaBuild.Text.Surrogate

/-!
# Lone surrogates in texts

There are lone surrogates in a text exactly if there are in one of its parts
(`isUnicode_append_iff`), and exactly if there are in the text for which it is written, when
only characters of ASCII are written as others (`isUnicode_flatMap_iff`).
-/

namespace JavaBuild.Text.Escapes

variable {escapes : Escapes} {s t : String} {cs : List Char}

theorem IsUnicode.of_ascii (h : ∀ c ∈ s.toList, c.toNat < 0x80) : escapes.IsUnicode s :=
  fun c hc => escapes.ascii c (h c hc)

theorem isUnicode_append_iff :
    escapes.IsUnicode (s ++ t) ↔ escapes.IsUnicode s ∧ escapes.IsUnicode t := by
  rw [IsUnicode, String.toList_append, List.forall_mem_append]
  rfl

theorem isUnicode_ofList_iff :
    escapes.IsUnicode (String.ofList cs) ↔ ∀ c ∈ cs, escapes.byte? c = none := by
  rw [IsUnicode, String.toList_ofList]

/-- What stands for a character of ASCII is ASCII. -/
theorem isUnicode_flatMap_iff {f : Char → List Char}
    (h : ∀ c, f c = [c] ∨ (c.toNat < 0x80 ∧ ∀ d ∈ f c, d.toNat < 0x80)) :
    escapes.IsUnicode (String.ofList (s.toList.flatMap f)) ↔ escapes.IsUnicode s := by
  rw [isUnicode_ofList_iff, List.forall_mem_flatMap, IsUnicode]
  refine forall₂_congr fun c _ => ?_
  rcases h c with hself | ⟨hc, hf⟩
  · rw [hself, List.forall_mem_singleton]
  · exact iff_of_true (fun d hd => escapes.ascii d (hf d hd)) (escapes.ascii c hc)

end JavaBuild.Text.Escapes
