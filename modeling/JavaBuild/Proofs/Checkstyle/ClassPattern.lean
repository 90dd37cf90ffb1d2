import JavaBuild.Checkstyle.Config
import JavaBuild.Proofs.Result

/-!
# Class patterns

A class pattern that is handed in as a text is kept as the pattern that the text is, and any
other as it is given (`GivenPattern.KeptAs`). It cannot be kept just if it is a text that is no
pattern (`GivenPattern.exists_compile_eq_ok_iff`).
-/

namespace JavaBuild.Checkstyle

namespace GivenPattern

variable {given : GivenPattern} {p : ClassPattern}

/-- A text that is no pattern. -/
def IsFaulty (given : GivenPattern) : Prop :=
  ∃ s, given = .value (.text s) ∧ ∀ p, Pattern.ofString s false ≠ .ok p

/-- What a class pattern is kept as: a text as the pattern that it is, and all else as it is
    given. -/
inductive KeptAs : GivenPattern → ClassPattern → Prop
  | compiled (p : Pattern) : KeptAs (.compiled p) (.compiled p)
  | text {s : String} {p : Pattern} (h : Pattern.ofString s false = .ok p) :
    KeptAs (.value (.text s)) (.compiled p)
  | stray {v : Value} (h : ∀ s, v ≠ .text s) : KeptAs (.value v) (.stray v)

theorem compile_text_eq_ok_iff {s : String} : compile (.value (.text s)) = .ok p ↔
    ∃ q, Pattern.ofString s false = .ok q ∧ .compiled q = p := by
  rw [compile]
  cases Pattern.ofString s false <;> simp [Except.map, Except.mapError]

theorem compile_of_not_text {v : Value} (h : ∀ s, v ≠ .text s) :
    compile (.value v) = .ok (.stray v) := by
  cases v with
  | text s => exact absurd rfl (h s)
  | _ => rfl

theorem compile_eq_ok_iff : given.compile = .ok p ↔ given.KeptAs p := by
  constructor
  · intro h
    cases given with
    | compiled q =>
      cases h
      exact .compiled q
    | value v =>
      by_cases htext : ∃ s, v = .text s
      · obtain ⟨s, rfl⟩ := htext
        obtain ⟨q, hq, rfl⟩ := compile_text_eq_ok_iff.1 h
        exact .text hq
      · rw [compile_of_not_text (not_exists.1 htext)] at h
        cases h
        exact .stray (not_exists.1 htext)
  · rintro (q | hq | hstray)
    · rfl
    · exact compile_text_eq_ok_iff.2 ⟨_, hq, rfl⟩
    · exact compile_of_not_text hstray

/-- A pattern is kept unless it is faulty. -/
theorem exists_compile_eq_ok_iff : (∃ p, given.compile = .ok p) ↔ ¬given.IsFaulty := by
  constructor
  · rintro ⟨p, hp⟩ ⟨s, rfl, hfaulty⟩
    obtain ⟨q, hq, -⟩ := compile_text_eq_ok_iff.1 hp
    exact hfaulty q hq
  · intro h
    cases given with
    | compiled q => exact ⟨_, rfl⟩
    | value v =>
      by_cases htext : ∃ s, v = .text s
      · obtain ⟨s, rfl⟩ := htext
        cases hq : Pattern.ofString s false with
        | ok q => exact ⟨_, compile_text_eq_ok_iff.2 ⟨q, hq, rfl⟩⟩
        | error e => exact absurd ⟨s, rfl, by simp [hq]⟩ h
      · exact ⟨_, compile_of_not_text (not_exists.1 htext)⟩

instance (given : GivenPattern) : Decidable given.IsFaulty :=
  decidable_of_iff (¬∃ p, given.compile = .ok p) (by rw [exists_compile_eq_ok_iff, not_not])

end GivenPattern

end JavaBuild.Checkstyle
