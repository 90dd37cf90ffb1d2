import JavaBuild.Proofs.Xml.StartTag

/-!
# Written attributes

A reference is written with one of the names that need no declaration, or with the number
of its character in decimal or hexadecimal digits, of which there may be any number of
leading zeros (`IsReference`). It stands for its character (`IsReference.standsFor`). A
value that is written with references for its special characters and its white space
(`WritesValue`) is scanned up to its closing quote (`WritesValue.scanValue_append`) and read
as it is meant (`WritesValue.readValue_eq`), unlike one in which white space is written as
it is. So are the attributes of a tag (`WritesAttributes.exists_written`).
-/

namespace JavaBuild.Xml

variable {c d : Char} {base : Nat} {digits name value written rest : List Char}

/-! ## Numbers -/

/-- The number with these digits. -/
def numberOf (base : Nat) (digits : List Char) : Nat :=
  digits.foldl (fun n d => base * n + (Text.hexValue? d).getD 0) 0

/-- Numbers beyond the last character are all alike. -/
theorem foldl_min (hbase : 0 < base) (limit n : Nat) (digits : List Char) :
    digits.foldl (fun n d => min (base * n + (Text.hexValue? d).getD 0) limit) (min n limit) =
      min (digits.foldl (fun n d => base * n + (Text.hexValue? d).getD 0) n) limit := by
  induction digits generalizing n with
  | nil => rfl
  | cons d digits ih =>
    rw [List.foldl_cons, List.foldl_cons, ← ih]
    congr 1
    rcases Nat.le_total n limit with h | h
    · rw [Nat.min_eq_left h]
    · have hle : limit ≤ base * limit := Nat.le_mul_of_pos_left limit hbase
      have hmono : base * limit ≤ base * n := Nat.mul_le_mul_left base h
      rw [Nat.min_eq_right h, Nat.min_eq_right (by omega), Nat.min_eq_right (by omega)]

/-- The number of a character is read as this character. -/
theorem numberedChar?_of_numberOf (hbase : 0 < base) (hc : isXmlChar c)
    (h : numberOf base digits = c.toNat) : numberedChar? base digits = some c := by
  have hvalid : c.toNat.isValidChar := c.valid
  have hlimit : c.toNat < 0x110000 := by
    rcases hvalid with h | h <;> omega
  have hfold : digits.foldl (fun n d => min (base * n + (Text.hexValue? d).getD 0) 0x110000) 0 =
      c.toNat := by
    have hmin := foldl_min hbase 0x110000 0 digits
    rw [← numberOf, h, Nat.min_eq_left (Nat.le_of_lt hlimit)] at hmin
    exact hmin
  have hchar : Char.ofNatAux c.toNat hvalid = c := Char.ext (UInt32.toNat_inj.1 rfl)
  rw [numberedChar?, hfold]
  exact (dif_pos hvalid).trans (by rw [hchar]; exact if_pos hc)

/-- A digit is a character that has no meaning of its own. -/
theorem plain_of_isDigitOf (h : isDigitOf base d) :
    isXmlChar d ∧ d ≠ '"' ∧ d ≠ '<' ∧ d ≠ '&' ∧ d ≠ ';' := by
  have hne {x : Char} (hx : Text.hexValue? x = none) : d ≠ x := by
    rintro rfl
    rw [isDigitOf, hx] at h
    cases h
  -- The digits lie between `0` and `f`, which leaves out all that XML does not take.
  have hrange : 48 ≤ d.toNat ∧ d.toNat ≤ 102 := by
    have hletters : '0'.val.toNat = 48 ∧ '9'.val.toNat = 57 ∧ 'a'.val.toNat = 97 ∧
        'f'.val.toNat = 102 ∧ 'A'.val.toNat = 65 ∧ 'F'.val.toNat = 70 :=
      ⟨rfl, rfl, rfl, rfl, rfl, rfl⟩
    rw [isDigitOf, Text.hexValue?] at h
    simp only [Char.le_def, UInt32.le_iff_toNat_le] at h
    change 48 ≤ d.val.toNat ∧ d.val.toNat ≤ 102
    split at h
    · omega
    · split at h
      · omega
      · split at h
        · omega
        · cases h
  refine ⟨?_, hne rfl, hne rfl, hne rfl, hne rfl⟩
  rw [isXmlChar, if_neg (by omega), Bool.and_eq_true, bne_iff_ne, bne_iff_ne]
  omega

theorem scanNumber_append {e : Ending} (hne : digits ≠ []) (h : ∀ d ∈ digits, isDigitOf base d)
    (rest : List Char) : scanNumber e base (digits ++ ';' :: rest) =
      .ok (.character (numberedChar? base digits), rest) := by
  have hend : isDigitOf base ';' = false := rfl
  rw [scanNumber, List.takeWhile_append_of_pos h, List.dropWhile_append_of_pos h,
    List.takeWhile_cons_of_neg (by simp [hend]), List.dropWhile_cons_of_neg (by simp [hend]),
    List.append_nil]
  cases digits with
  | nil => exact absurd rfl hne
  | cons d digits => rfl

/-! ## References -/

/-- What is written between `&` and `;` for a character. -/
inductive IsReference (c : Char) : List Char → Prop
  | named {name : List Char} (h : predefined? name = some c) : IsReference c name
  | decimal {digits : List Char} (hne : digits ≠ []) (hdigits : ∀ d ∈ digits, isDigitOf 10 d)
    (h : numberOf 10 digits = c.toNat) : IsReference c ('#' :: digits)
  | hexadecimal {digits : List Char} (hne : digits ≠ []) (hdigits : ∀ d ∈ digits, isDigitOf 16 d)
    (h : numberOf 16 digits = c.toNat) : IsReference c ('#' :: 'x' :: digits)

/-- A predefined name stands for its character. -/
theorem standsFor_of_predefined (h : predefined? name = some c) : StandsFor name c := by
  rw [predefined?, List.lookup_eq_some_iff] at h
  obtain ⟨before, after, hlist, -⟩ := h
  have hmem : (name, c) ∈ before ++ (name, c) :: after :=
    List.mem_append_right _ List.mem_cons_self
  rw [← hlist] at hmem
  simp only [List.mem_cons, Prod.mk.injEq, List.not_mem_nil, or_false] at hmem
  rcases hmem with ⟨rfl, rfl⟩ | ⟨rfl, rfl⟩ | ⟨rfl, rfl⟩ | ⟨rfl, rfl⟩ | ⟨rfl, rfl⟩
  · exact standsFor_lt
  · exact standsFor_gt
  · exact standsFor_amp
  · exact standsFor_quot
  · exact ⟨⟨.entity "apos".toList, fun _ _ => rfl, rfl⟩, List.all_iff_forall_prop.1 rfl⟩

/-- A reference stands for the character that it is written for. -/
theorem IsReference.standsFor (h : IsReference c name) (hc : isXmlChar c) : StandsFor name c := by
  cases h with
  | named h => exact standsFor_of_predefined h
  | @decimal digits hne hdigits h =>
    refine ⟨⟨.character (some c), fun e rest => ?_, rfl⟩, ?_⟩
    · -- The first digit is not taken for the mark of hexadecimal digits.
      obtain ⟨d, ds, rfl⟩ := List.exists_cons_of_ne_nil hne
      have hx : d ≠ 'x' := by
        rintro rfl
        exact absurd (hdigits 'x' List.mem_cons_self) (by decide)
      rw [← numberedChar?_of_numberOf (by decide) hc h, ← scanNumber_append hne hdigits rest]
      rw [List.cons_append, List.cons_append, scanReference]
      simp [hx]
    · rw [List.forall_mem_cons]
      exact ⟨by decide, fun d hd => plain_of_isDigitOf (hdigits d hd)⟩
  | @hexadecimal digits hne hdigits h =>
    refine ⟨⟨.character (some c), fun e rest => ?_, rfl⟩, ?_⟩
    · rw [← numberedChar?_of_numberOf (by decide) hc h, ← scanNumber_append hne hdigits rest]
      rfl
    · rw [List.forall_mem_cons, List.forall_mem_cons]
      exact ⟨by decide, by decide, fun d hd => plain_of_isDigitOf (hdigits d hd)⟩

/-! ## Values -/

/-- A value is written character by character, with references for special characters and
    for white space other than blanks. -/
inductive WritesValue : List Char → List Char → Prop
  | nil : WritesValue [] []
  | itself {c : Char} {value written : List Char} (char : isXmlChar c)
    (plain : c ≠ '"' ∧ c ≠ '<' ∧ c ≠ '&') (blank : isXmlSpace c → c = ' ')
    (h : WritesValue value written) : WritesValue (c :: value) (c :: written)
  | reference {c : Char} {name value written : List Char} (char : isXmlChar c)
    (hname : IsReference c name) (h : WritesValue value written) :
    WritesValue (c :: value) ('&' :: name ++ ';' :: written)

/-- A written value is scanned up to its closing quote. -/
theorem WritesValue.scanValue_append {e : Ending} (h : WritesValue value written)
    (rest : List Char) : scanValue e '"' (written ++ '"' :: rest) = .ok (written, rest) := by
  induction h with
  | nil => exact if_pos rfl
  | itself char plain _ _ ih =>
    rw [List.cons_append, scanValue_plain char plain.1 plain.2.1 plain.2.2, ih]
    rfl
  | @reference c name value written char hname _ ih =>
    have happend : '&' :: name ++ ';' :: written ++ '"' :: rest =
        '&' :: name ++ ';' :: (written ++ '"' :: rest) := by simp
    rw [happend, scanValue_reference (hname.standsFor char), ih]
    rfl

/-- A written value is read as it is meant. -/
theorem WritesValue.readValue_eq {expand : List Char → Except (XmlFault × Bool) (List Char)}
    (h : WritesValue value written) : readValue expand false written = .ok value := by
  induction h with
  | nil => rfl
  | @itself c value written _ plain blank _ ih =>
    have hself : (if isXmlSpace c then ' ' else c) = c := by
      split
      · rename_i hspace
        exact (blank hspace).symm
      · rfl
    rw [readValue, if_neg plain.2.2, if_neg plain.2.1, ih, hself]
    · rfl
    · rintro _ rfl
      exact absurd (blank rfl) (by decide)
  | reference char hname _ ih =>
    rw [readValue_reference (hname.standsFor char), ih]
    rfl

/-! ## Attributes -/

/-- Attributes are written in their order, each with a plain name, after a gap. -/
inductive WritesAttributes : List Attribute → List Char → Prop
  | nil : WritesAttributes [] []
  | cons {gap name text value rest : List Char} {as : List Attribute} (spaced : IsXmlGap gap)
    (plain : PlainName name) (free : name ≠ "xmlns".toList) (hvalue : WritesValue text value)
    (h : WritesAttributes as rest) :
    WritesAttributes (⟨.plain (String.ofList name), String.ofList text⟩ :: as)
      (gap ++ (name ++ '=' :: '"' :: (value ++ '"' :: rest)))

/-- Written attributes are scanned and read one by one. -/
theorem WritesAttributes.exists_written {as : List Attribute} (h : WritesAttributes as written) :
    ∃ was : List WrittenAttribute, was.map (·.meaning) = as ∧ attributeChars was = written := by
  induction h with
  | nil => exact ⟨[], rfl, rfl⟩
  | @cons gap name text value rest as spaced plain free hvalue _ ih =>
    obtain ⟨was, rfl, rfl⟩ := ih
    let a : WrittenAttribute :=
      { name, value, text, plain, free, gap, spaced
        scanned := fun _ rest => hvalue.scanValue_append rest
        read := by
          rw [attributeText, hvalue.readValue_eq]
          rfl }
    refine ⟨a :: was, rfl, ?_⟩
    rw [attributeChars, List.flatMap_cons, ← attributeChars]
    simp [a, WrittenAttribute.chars]

end JavaBuild.Xml
