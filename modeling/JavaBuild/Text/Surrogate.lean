import JavaBuild.Text.Utf8

/-!
# Lone surrogates

A byte of an argument, or of the name of a file, that belongs to no UTF-8 text is read as a code
point from U+DC80 to U+DCFF. These are lone surrogates, and no `Char` is one: `Escapes` tells
which characters stand for them in the texts of a program. In the names of files they are these
bytes again, but a text that has one of them cannot be written as UTF-8 (`Escapes.encode`).
-/

namespace JavaBuild.Text

/-- The characters that stand for bytes which belong to no UTF-8 text. -/
structure Escapes where
  byte? : Char → Option UInt8
  /-- Such a byte is none of ASCII, … -/
  high : ∀ c b, byte? c = some b → 0x80 ≤ b
  /-- … and no character of ASCII stands for one. -/
  ascii : ∀ c, c.toNat < 0x80 → byte? c = none

/-- Why a text cannot be written as UTF-8. -/
structure EncodeError where
  /-- The place of the first lone surrogate. -/
  position : Nat
  /-- The bytes that it and those right after it stand for. -/
  bytes : List UInt8
  deriving DecidableEq, Repr

/-- Which characters cannot be written. -/
def EncodeError.message (e : EncodeError) : String :=
  match e.bytes with
  | [b] =>
    s!"'utf-8' codec can't encode character '\\udc{hexByte b}' in position {e.position}: " ++
      "surrogates not allowed"
  | bytes =>
    s!"'utf-8' codec can't encode characters in position {e.position}-" ++
      s!"{e.position + bytes.length - 1}: surrogates not allowed"

namespace Escapes

/-- No characters stand for bytes. -/
def empty : Escapes where
  byte? _ := none
  high _ _ h := by cases h
  ascii _ _ := rfl

/-- For each of these bytes, a character of private use, from U+E080 on, stands for it. -/
def privateUse : Escapes where
  byte? c := if 0xE080 ≤ c.toNat ∧ c.toNat < 0xE100 then some (c.toNat - 0xE000).toUInt8 else none
  high c b h := by
    split at h
    · rw [← Option.some.inj h, UInt8.le_iff_toNat_le, Nat.toUInt8, UInt8.toNat_ofNat']
      simp only [UInt8.reduceToNat]
      omega
    · cases h
  ascii c h := if_neg fun hrange => by omega

/-- The lone surrogates at the start of a text. -/
def leading (e : Escapes) : List Char → List UInt8
  | [] => []
  | c :: cs => match e.byte? c with
    | some b => b :: leading e cs
    | none => []

/-- A text as UTF-8. -/
def encode (e : Escapes) (text : String) : Except EncodeError ByteArray :=
  match text.toList.findIdx? fun c => (e.byte? c).isSome with
  | none => .ok text.toUTF8
  | some i => .error ⟨i, e.leading (text.toList.drop i)⟩

/-- There are no lone surrogates in a text. -/
def IsUnicode (e : Escapes) (text : String) : Prop := ∀ c ∈ text.toList, e.byte? c = none

instance (e : Escapes) (text : String) : Decidable (e.IsUnicode text) :=
  inferInstanceAs (Decidable (∀ c ∈ text.toList, e.byte? c = none))

theorem isUnicode_empty (text : String) : empty.IsUnicode text := fun _ _ => rfl

/-- A text can be written if there are no lone surrogates in it. -/
theorem encode_eq_ok_iff {e : Escapes} {text : String} {bytes : ByteArray} :
    e.encode text = .ok bytes ↔ e.IsUnicode text ∧ bytes = text.toUTF8 := by
  rw [encode]
  split
  · rename_i hnone
    have hplain : e.IsUnicode text := by
      simpa [IsUnicode] using hnone
    simp [hplain, eq_comm]
  · rename_i i hsome
    have hnot : ¬e.IsUnicode text := fun hplain => by
      have hany := congrArg Option.isSome hsome
      rw [List.findIdx?_isSome] at hany
      obtain ⟨c, hc, hbyte⟩ := List.any_eq_true.1 hany
      simp [hplain c hc] at hbyte
    simp [hnot]

theorem exists_encode_eq_error {e : Escapes} {text : String} (h : ¬e.IsUnicode text) :
    ∃ error, e.encode text = .error error := by
  cases hencode : e.encode text with
  | error error => exact ⟨error, rfl⟩
  | ok bytes => exact absurd (encode_eq_ok_iff.1 hencode).1 h

end Escapes

end JavaBuild.Text
