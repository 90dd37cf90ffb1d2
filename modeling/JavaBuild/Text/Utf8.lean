/-!
# UTF-8

`decodeUtf8` reads bytes as UTF-8. On bytes that are no UTF-8 it names the
first fault (`Utf8Error`): where it starts, how many bytes belong to it and
what is wrong. A faulty sequence is as long as a beginning of a character
reaches: a lead byte that announces more bytes takes those after it that could
continue it.
-/

namespace JavaBuild.Text

/-- Why a sequence of bytes is not the UTF-8 of a character. -/
inductive Utf8Fault where
  | invalidStart
  | invalidContinuation
  | unexpectedEnd
  deriving DecidableEq, Repr

/-- The first fault of bytes that are not UTF-8. -/
structure Utf8Error where
  /-- The offset of the first byte of the faulty sequence. -/
  position : Nat
  /-- The faulty sequence. -/
  bytes : List UInt8
  fault : Utf8Fault
  deriving DecidableEq, Repr

/-- The bytes that may follow the lead byte `b`: the range of the second byte
    and the number of bytes after it. -/
def continuation? (b : UInt8) : Option ((UInt8 × UInt8) × Nat) :=
  if 0xC2 ≤ b && b ≤ 0xDF then some ((0x80, 0xBF), 0)
  else if b == 0xE0 then some ((0xA0, 0xBF), 1)
  else if b == 0xED then some ((0x80, 0x9F), 1)
  else if 0xE1 ≤ b && b ≤ 0xEF then some ((0x80, 0xBF), 1)
  else if b == 0xF0 then some ((0x90, 0xBF), 2)
  else if 0xF1 ≤ b && b ≤ 0xF3 then some ((0x80, 0xBF), 2)
  else if b == 0xF4 then some ((0x80, 0x8F), 2)
  else none

/-- The bytes `seen` of a character, of which `missing` more are to come, each
    a continuation byte: the rest after the character, or the fault. -/
def takeContinuation : (seen : List UInt8) → (missing : Nat) → List UInt8 →
    Except (List UInt8 × Utf8Fault) (List UInt8)
  | _, 0, rest => .ok rest
  | seen, _ + 1, [] => .error (seen, .unexpectedEnd)
  | seen, n + 1, b :: rest =>
    if 0x80 ≤ b && b ≤ 0xBF then takeContinuation (seen ++ [b]) n rest
    else .error (seen, .invalidContinuation)

/-- The rest after the first character of `b :: bs`, or the fault in it. -/
def skipUtf8Char (b : UInt8) (bs : List UInt8) :
    Except (List UInt8 × Utf8Fault) (List UInt8) :=
  if b < 0x80 then .ok bs
  else match continuation? b with
    | none => .error ([b], .invalidStart)
    | some ((low, high), more) => match bs with
      | [] => .error ([b], .unexpectedEnd)
      | c :: cs =>
        if low ≤ c && c ≤ high then takeContinuation [b, c] more cs
        else .error ([b], .invalidContinuation)

/-- The first fault of the bytes from offset `position` on. The number of
    characters is at most the number of bytes, which bounds the search. -/
def firstUtf8Fault : (budget : Nat) → (position : Nat) → List UInt8 → Option Utf8Error
  | 0, _, _ => none
  | _ + 1, _, [] => none
  | n + 1, position, b :: bs =>
    match skipUtf8Char b bs with
    | .error (bytes, fault) => some ⟨position, bytes, fault⟩
    | .ok rest => firstUtf8Fault n (position + 1 + (bs.length - rest.length)) rest

/-- Read bytes as UTF-8. -/
def decodeUtf8 (bytes : ByteArray) : Except Utf8Error String :=
  match String.fromUTF8? bytes with
  | some s => .ok s
  | none =>
    .error ((firstUtf8Fault bytes.size 0 bytes.toList).getD ⟨0, [], .unexpectedEnd⟩)

theorem decodeUtf8_toUTF8 (s : String) : decodeUtf8 s.toUTF8 = .ok s := by
  have h : s.toUTF8.IsValidUTF8 := s.isValidUTF8
  simp only [decodeUtf8, String.fromUTF8?, h, dite_true]
  rfl

/-- Two hexadecimal digits of a byte, in small letters. -/
def hexByte (b : UInt8) : String :=
  String.ofList [Nat.digitChar (b.toNat / 16), Nat.digitChar (b.toNat % 16)]

/-- What is wrong, in words. -/
def Utf8Fault.message : Utf8Fault → String
  | .invalidStart => "invalid start byte"
  | .invalidContinuation => "invalid continuation byte"
  | .unexpectedEnd => "unexpected end of data"

/-- Which bytes are wrong, and what is wrong with them. -/
def Utf8Error.message (e : Utf8Error) : String :=
  match e.bytes with
  | [b] =>
    s!"'utf-8' codec can't decode byte 0x{hexByte b} in position {e.position}: {e.fault.message}"
  | bytes =>
    s!"'utf-8' codec can't decode bytes in position {e.position}-" ++
      s!"{e.position + bytes.length - 1}: {e.fault.message}"

end JavaBuild.Text
