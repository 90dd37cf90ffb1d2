import JavaBuild.Xml.Codec

/-!
# Encodings of documents

The bytes of a document are read as characters in the encoding that its first
bytes show (`detect`), or, if that has one byte for each ASCII character, in the
one that its declaration names (`Encoding.named`). Reading stops at the first
bytes that are no character; `Ending` says how.
-/

namespace JavaBuild.Xml

/-- How the bytes of a document end. -/
inductive Ending where
  /-- After a character. -/
  | complete
  /-- Within a unit of two bytes. -/
  | halfUnit
  /-- Within a character. -/
  | truncated
  /-- Before bytes that are no character. -/
  | malformed
  deriving DecidableEq, Repr

/-- Whether there are bytes after the last character that was read. -/
def Ending.hasMore : Ending → Bool
  | complete | halfUnit => false
  | truncated | malformed => true

/-- The characters of a document, and how its bytes end. -/
structure Source where
  chars : List Char
  ending : Ending
  deriving DecidableEq, Repr

/-- A character before others. -/
def Source.cons (c : Char) (s : Source) : Source := ⟨c :: s.chars, s.ending⟩

/-- An encoding of documents. -/
inductive Encoding where
  | utf8
  | utf16 (bigEndian : Bool)
  /-- One byte for each character. -/
  | bytes (char? : UInt8 → Option Char)

/-- The value of the six low bits of a byte. -/
def low6 (b : UInt8) : Nat := (b &&& 0x3F).toNat

/-- The character with this code, if the bytes of its code are well formed. -/
def checkedChar (ok : Bool) (code : Nat) (rest : Source) : Source :=
  if ok then rest.cons (Char.ofNat code) else ⟨[], .malformed⟩

/-- Whether a byte continues a character. -/
def continues (b : UInt8) : Bool := 0x80 ≤ b && b ≤ 0xBF

/-- Read bytes as UTF-8 up to the first that are not. -/
def readUtf8 : List UInt8 → Source
  | [] => ⟨[], .complete⟩
  | b :: bs =>
    if b < 0x80 then (readUtf8 bs).cons (Char.ofNat b.toNat)
    else if 0xC0 ≤ b && b ≤ 0xDF then
      match bs with
      | c :: rest =>
        checkedChar (0xC2 ≤ b && continues c) ((b &&& 0x1F).toNat * 64 + low6 c) (readUtf8 rest)
      | [] => ⟨[], .truncated⟩
    else if 0xE0 ≤ b && b ≤ 0xEF then
      match bs with
      | c :: d :: rest =>
        checkedChar
          (continues c && continues d && !(b == 0xE0 && c < 0xA0) && !(b == 0xED && 0x9F < c))
          (((b &&& 0x0F).toNat * 64 + low6 c) * 64 + low6 d) (readUtf8 rest)
      | _ => ⟨[], .truncated⟩
    else if 0xF0 ≤ b && b ≤ 0xF4 then
      match bs with
      | c :: d :: e :: rest =>
        checkedChar
          (continues c && continues d && continues e &&
            !(b == 0xF0 && c < 0x90) && !(b == 0xF4 && 0x8F < c))
          ((((b &&& 0x07).toNat * 64 + low6 c) * 64 + low6 d) * 64 + low6 e) (readUtf8 rest)
      | _ => ⟨[], .truncated⟩
    else ⟨[], .malformed⟩

/-- The unit of two bytes. -/
def unitOf (bigEndian : Bool) (a b : UInt8) : Nat :=
  if bigEndian then a.toNat * 256 + b.toNat else b.toNat * 256 + a.toNat

/-- Read bytes as UTF-16 up to the first that are not. Only the ten low bits of the unit
    after a high surrogate count, be it a low surrogate or not. -/
def readUtf16 (bigEndian : Bool) : List UInt8 → Source
  | [] => ⟨[], .complete⟩
  | [_] => ⟨[], .halfUnit⟩
  | a :: b :: bs =>
    let unit := unitOf bigEndian a b
    if 0xD800 ≤ unit && unit ≤ 0xDBFF then
      match bs with
      | c :: d :: rest =>
        let code := 0x10000 + (unit - 0xD800) * 1024 + unitOf bigEndian c d % 1024
        (readUtf16 bigEndian rest).cons (Char.ofNat code)
      | _ => ⟨[], .truncated⟩
    else if 0xDC00 ≤ unit && unit ≤ 0xDFFF then ⟨[], .malformed⟩
    else (readUtf16 bigEndian bs).cons (Char.ofNat unit)

/-- Read bytes of one character each, up to the first that is none. -/
def readBytes (char? : UInt8 → Option Char) : List UInt8 → Source
  | [] => ⟨[], .complete⟩
  | b :: bs => match char? b with
    | none => ⟨[], .malformed⟩
    | some c => (readBytes char? bs).cons c

/-- The characters of bytes in an encoding. -/
def Encoding.read (encoding : Encoding) (document : ByteArray) : Source :=
  match encoding with
  | utf8 => match String.fromUTF8? document with
    | some s => ⟨s.toList, .complete⟩
    | none => readUtf8 document.toList
  | utf16 bigEndian => readUtf16 bigEndian document.toList
  | bytes char? => readBytes char? document.toList

/-- The encoding that the first three bytes show. It cannot be told of bytes that may
    start a mark or a tag. -/
def detect : List UInt8 → Option Encoding
  | [] => some .utf8
  | [b] => if [0x00, 0x3C, 0xEF, 0xFE, 0xFF].contains b then none else some .utf8
  | [0xEF, 0xBB] => none
  | a :: b :: _ =>
    if a == 0xFE && b == 0xFF then some (.utf16 true)
    else if a == 0xFF && b == 0xFE then some (.utf16 false)
    else if a == 0 then some (.utf16 true)
    else if b == 0 then some (.utf16 false)
    else some .utf8

/-- Each byte as the character of its number. -/
def latin1 (b : UInt8) : Option Char := some (Char.ofNat b.toNat)

/-- The bytes below 128 as the characters of their numbers. -/
def ascii (b : UInt8) : Option Char :=
  if b < 0x80 then some (Char.ofNat b.toNat) else none

/-- What the name of an encoding in a declaration stands for. -/
inductive NamedEncoding where
  /-- One that has one byte for each ASCII character. -/
  | narrow (encoding : Encoding)
  /-- One with units of two bytes, in this order if the name tells it. -/
  | wide (bigEndian : Option Bool)
  /-- One that another codec reads. -/
  | other (codec : Codec)

/-- The encoding of a name, in which letter case does not matter. -/
def Encoding.named (name : String) : NamedEncoding :=
  match name.toLower with
  | "utf-8" => .narrow .utf8
  | "iso-8859-1" => .narrow (.bytes latin1)
  | "us-ascii" => .narrow (.bytes ascii)
  | "utf-16" => .wide none
  | "utf-16be" => .wide (some true)
  | "utf-16le" => .wide (some false)
  | _ => .other (Codec.named name)

end JavaBuild.Xml
