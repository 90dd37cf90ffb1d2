import JavaBuild.Proofs.Text.Line
import JavaBuild.Text.Integer

/-!
# Written integers

An integer is written as a sign, if it is negative, and the digits of its absolute value
(`splitSign_repr`). It is read again as it was, unless it has too many digits
(`readInteger_toString`), and no two integers are written alike (`repr_injective`). What has
been read can be shown again (`isShowableInteger_of_readInteger`).
-/

namespace JavaBuild.Text

variable {c : Char} {cs : List Char} {ds : List Nat} {n : Int}

/-! ## Digits -/

theorem toNat_of_isDigit (h : c.isDigit) : 48 ≤ c.toNat ∧ c.toNat ≤ 57 := by
  rwa [Char.isDigit, Bool.and_eq_true, decide_eq_true_eq, decide_eq_true_eq] at h

theorem digitValue?_of_isDigit (h : c.isDigit) : digitValue? c = some (c.toNat - '0'.toNat) := by
  obtain ⟨hlow, hhigh⟩ := toNat_of_isDigit h
  have hstart : digitRanges.start? c = some 48 := by
    rw [digitRanges, CharRanges.start?, List.find?_cons_of_pos (by simp [hlow, hhigh])]
    rfl
  rw [digitValue?, hstart, Option.map_some, Nat.mod_eq_of_lt (by omega)]
  rfl

/-- Digits without underscores between them are read one by one. -/
theorem digitValues?_of_isDigit (hne : cs ≠ []) (h : ∀ c ∈ cs, c.isDigit) :
    digitValues? cs = some (cs.map fun c => c.toNat - '0'.toNat) := by
  induction cs with
  | nil => exact absurd rfl hne
  | cons c cs ih =>
    obtain ⟨hc, hcs⟩ := List.forall_mem_cons.1 h
    cases cs with
    | nil => rw [digitValues?, digitValue?_of_isDigit hc]; rfl
    | cons d ds =>
      have hd : d ≠ '_' := by
        rintro rfl
        exact absurd (hcs '_' List.mem_cons_self) (by decide)
      rw [digitValues?, digitValue?_of_isDigit hc, ih (List.cons_ne_nil d ds) hcs]
      · rfl
      · simp
      · simp [hd]

/-- The digits of a number are read as this number. -/
theorem ofDigits_toDigits (n : Nat) :
    ofDigits ((Nat.toDigits 10 n).map fun c => c.toNat - '0'.toNat) = n := by
  rw [ofDigits, List.foldl_map, ← Nat.ofDigitChars_eq_foldl,
    Nat.ofDigitChars_toDigits (by decide) (by decide)]

theorem isDigit_of_mem_toDigits {n : Nat} (h : c ∈ Nat.toDigits 10 n) : c.isDigit :=
  Nat.isDigit_of_mem_toDigits (by decide) (by decide) h

theorem lt_of_mem_digitValues (h : digitValues? cs = some ds) : ∀ d ∈ ds, d < 10 := by
  -- Underscores are passed over, and give no digits.
  fun_induction digitValues? cs generalizing ds with
  | case1 => cases h
  | case2 c =>
    obtain ⟨d, hd, rfl⟩ := Option.map_eq_some_iff.1 h
    exact List.forall_mem_singleton.2 (digitValue?_lt hd)
  | case3 c cs ih | case4 c cs _ _ ih =>
    obtain ⟨d, hd, h⟩ := Option.bind_eq_some_iff.1 h
    obtain ⟨rest, hrest, h⟩ := Option.bind_eq_some_iff.1 h
    cases h
    exact List.forall_mem_cons.2 ⟨digitValue?_lt hd, ih hrest⟩

/-- No more digits than these make a number below this power of ten. -/
theorem ofDigits_lt {count : Nat} (h : ∀ d ∈ ds, d < 10) (hcount : ds.length ≤ count) :
    ofDigits ds < Nat.pow 10 count := by
  suffices hfrom : ∀ n, ds.foldl (fun n d => 10 * n + d) n < (n + 1) * 10 ^ ds.length by
    have hlt : ofDigits ds < 10 ^ ds.length := by simpa [ofDigits] using hfrom 0
    exact hlt.trans_le (Nat.pow_le_pow_right (by decide) hcount)
  clear hcount
  induction ds with
  | nil => simp
  | cons d ds ih =>
    obtain ⟨hd, hds⟩ := List.forall_mem_cons.1 h
    intro n
    calc ds.foldl (fun n d => 10 * n + d) (10 * n + d)
      _ < (10 * n + d + 1) * 10 ^ ds.length := ih hds _
      _ ≤ (n + 1) * 10 * 10 ^ ds.length := Nat.mul_le_mul_right _ (by omega)
      _ = (n + 1) * 10 ^ (d :: ds).length := by rw [List.length_cons, Nat.pow_succ', Nat.mul_assoc]

/-! ## Signs -/

theorem splitSign_of_isDigit (h : ∀ c ∈ cs, c.isDigit) : splitSign cs = (false, cs) := by
  cases cs with
  | nil => rfl
  | cons c cs =>
    have hc := h c List.mem_cons_self
    rw [splitSign]
    · rintro ds ⟨⟩
      exact absurd hc (by decide)
    · rintro ds ⟨⟩
      exact absurd hc (by decide)

/-- An integer is written with a sign if it is negative. -/
theorem repr_toList (n : Int) :
    n.repr.toList =
      if n < 0 then '-' :: Nat.toDigits 10 n.natAbs else Nat.toDigits 10 n.natAbs := by
  rw [Int.repr_eq_if]
  by_cases h : 0 ≤ n
  · rw [if_pos h, if_neg (Int.not_lt.2 h), Nat.repr_eq_ofList_toDigits, String.toList_ofList,
      ← Int.toNat_of_nonneg h]
    rfl
  · have hneg : (-n).toNat = n.natAbs := by omega
    rw [if_neg h, if_pos (Int.not_le.1 h), hneg, String.toList_append,
      Nat.repr_eq_ofList_toDigits]
    exact congrArg ('-' :: ·) String.toList_ofList

theorem splitSign_repr (n : Int) :
    splitSign n.repr.toList = (decide (n < 0), Nat.toDigits 10 n.natAbs) := by
  rw [repr_toList]
  split
  · rename_i h
    rw [splitSign, decide_eq_true h]
  · rename_i h
    rw [splitSign_of_isDigit fun c => isDigit_of_mem_toDigits, decide_eq_false h]

/-- Nothing but digits and signs is written for an integer. -/
theorem isDigit_of_mem_repr (h : c ∈ n.repr.toList) : c = '-' ∨ c.isDigit := by
  rw [repr_toList] at h
  split at h
  · exact (List.mem_cons.1 h).imp_right isDigit_of_mem_toDigits
  · exact .inr (isDigit_of_mem_toDigits h)

/-- No two integers are written alike. -/
theorem repr_injective {m n : Int} (h : m.repr = n.repr) : m = n := by
  have hsplit := splitSign_repr m
  rw [h, splitSign_repr n, Prod.mk.injEq, decide_eq_decide] at hsplit
  obtain ⟨hsign, hdigits⟩ := hsplit
  have hnatAbs : n.natAbs = m.natAbs := by
    rw [← ofDigits_toDigits n.natAbs, hdigits, ofDigits_toDigits]
  omega

theorem repr_ne_empty (n : Int) : n.repr ≠ "" := by
  intro h
  have hsplit := splitSign_repr n
  rw [h] at hsplit
  exact Nat.toDigits_ne_nil (congrArg Prod.snd hsplit).symm

/-! ## Reading integers -/

theorem isBlank_of_mem_repr (h : c ∈ n.repr.toList) : isBlank c = false := by
  rcases isDigit_of_mem_repr h with rfl | hc
  · decide
  · obtain ⟨hlow, hhigh⟩ := toNat_of_isDigit hc
    simp only [isBlank, blankRanges, CharRanges.contains, CharRanges.containsCode, List.any_cons,
      List.any_nil, Bool.or_eq_false_iff, Bool.and_eq_false_iff, decide_eq_false_iff_not,
      and_true]
    omega

/-- A written integer is read again. -/
theorem readInteger_toString (h : (toString n.natAbs).length ≤ maxDigits) :
    readInteger (toString n) = .ok n := by
  have htrim : trim n.repr.toList = n.repr.toList :=
    trim_eq_self (fun c hc => isBlank_of_mem_repr (List.mem_of_mem_head? hc))
      (fun c hc => isBlank_of_mem_repr (List.mem_of_mem_getLast? hc))
  have hlength : (Nat.toDigits 10 n.natAbs).length ≤ maxDigits := by
    change n.natAbs.repr.length ≤ maxDigits at h
    rwa [Nat.repr_eq_ofList_toDigits, String.length_ofList] at h
  change readInteger n.repr = .ok n
  rw [readInteger, htrim, splitSign_repr]
  dsimp only
  rw [digitValues?_of_isDigit Nat.toDigits_ne_nil fun c => isDigit_of_mem_toDigits]
  dsimp only
  rw [List.length_map, if_neg (Nat.not_lt.2 hlength), ofDigits_toDigits]
  -- The sign is put back in front of the digits.
  by_cases hn : n < 0
  · rw [if_pos (decide_eq_true hn)]
    congr 1
    omega
  · rw [if_neg (by simpa using hn)]
    congr 1
    omega

/-- An integer that has been read has not too many digits to be shown. -/
theorem isShowableInteger_of_readInteger {s : String} (h : readInteger s = .ok n) :
    isShowableInteger n := by
  rw [readInteger] at h
  generalize splitSign (trim s.toList) = split at h
  obtain ⟨negative, cs⟩ := split
  cases hvalues : digitValues? cs with
  | none =>
    simp only [hvalues] at h
    cases h
  | some ds =>
    simp only [hvalues] at h
    split at h
    · cases h
    · rename_i hlength
      have hlt := ofDigits_lt (lt_of_mem_digitValues hvalues) (Nat.not_lt.1 hlength)
      split at h <;> cases h <;> simpa [isShowableInteger] using hlt

end JavaBuild.Text
