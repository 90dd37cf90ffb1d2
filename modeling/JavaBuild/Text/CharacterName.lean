import JavaBuild.Text.Name.Alphabets
import JavaBuild.Text.Name.AncientScripts
import JavaBuild.Text.Name.EastAsian
import JavaBuild.Text.Name.Notation
import JavaBuild.Text.Name.Symbols

/-!
# Names of characters

A character is found by its name in Unicode 14 (`named?`). Names are listed in tables
(`nameTables`), or put together: from the parts of a Hangul syllable, or from the number of
an ideograph. There are further names for control characters and for names that were wrong.

Letter case does not matter, except in the names of syllables and unified ideographs.
-/

namespace JavaBuild.Text

/-! ## Names in tables -/

/-- The tables of names. -/
def nameTables : List (List (Nat × List String)) :=
  [europeanNames, semiticNames, indicNames, georgianNames, canadianNames, islandNames,
   extendedNames, punctuationNames, operatorNames, shapeNames, brailleNames, glagoliticNames,
   kanaNames, yiNames, lisuNames, presentationNames, aegeanNames, brahmicNames, hieroglyphNames,
   tangutNames, musicalNames, mathematicalNames, pictureNames, pictographNames, tagNames]

/-- The words of a name in a table, which may share some with the name before it. -/
def nameWords (before : List (List Char)) : List Char → List (List Char)
  | [] => []
  | c :: cs =>
    if c.isDigit then before.take (c.toNat - '0'.toNat) ++ cs.splitOn ' '
    else (c :: cs).splitOn ' '

/-- The place of a name among successive ones. -/
def indexOfName? (name : List (List Char)) (before : List (List Char)) :
    List (List Char) → Option Nat
  | [] => none
  | entry :: entries =>
    let words := nameWords before entry
    if words = name then some 0 else (indexOfName? name words entries).map (· + 1)

/-- The number of the character with a name in a table. -/
def codeInTable? (name : List (List Char)) (table : List (Nat × List String)) : Option Nat :=
  table.findSome? fun (first, lines) =>
    (indexOfName? name [] (lines.flatMap (·.toList.splitOn ','))).map (first + ·)

/-! ## Names that are put together -/

/-- The value of an upper-case hexadecimal digit. -/
def upperHex? (c : Char) : Option Nat :=
  if c.isDigit then some (c.toNat - '0'.toNat)
  else if 'A' ≤ c ∧ c ≤ 'F' then some (c.toNat - 'A'.toNat + 10)
  else none

/-- The number of upper-case hexadecimal digits, of which there must be four or five. -/
def hexCode? (ds : List Char) : Option Nat :=
  if ds.length = 4 ∨ ds.length = 5 then
    (ds.mapM upperHex?).map (·.foldl (fun n d => 16 * n + d) 0)
  else none

/-- Characters that are named by a prefix and their numbers. -/
structure NumberedFamily where
  start : String
  /-- The first and the last one of each range of numbers. -/
  ranges : List (Nat × Nat)
  /-- Whether a zero may stand in front of a number. -/
  padded : Bool

/-- The number of a character in a family that has a name. -/
def NumberedFamily.code? (family : NumberedFamily) (name : List Char) : Option Nat := do
  let ds ← family.start.toList.isPrefixOf? name
  if ds.head? = some '0' ∧ !family.padded then none
  else (hexCode? ds).filter fun code =>
    family.ranges.any fun (first, last) => first ≤ code && code ≤ last

def unifiedIdeographs : NumberedFamily where
  start := "CJK UNIFIED IDEOGRAPH-"
  ranges :=
    [(0x3400, 0x4DBF), (0x4E00, 0x9FFF), (0x20000, 0x2A6DF), (0x2A700, 0x2B738),
     (0x2B740, 0x2B81D), (0x2B820, 0x2CEA1), (0x2CEB0, 0x2EBE0), (0x30000, 0x3134A)]
  padded := true

/-- The other families. -/
def numberedFamilies : List NumberedFamily :=
  [⟨"CJK COMPATIBILITY IDEOGRAPH-", [(0xF900, 0xFA6D), (0xFA70, 0xFAD9), (0x2F800, 0x2FA1D)],
      false⟩,
   ⟨"KHITAN SMALL SCRIPT CHARACTER-", [(0x18B00, 0x18CD5)], false⟩,
   ⟨"NUSHU CHARACTER-", [(0x1B170, 0x1B2FB)], false⟩]

/-- The parts of the names of Hangul syllables: what they start with, their vowels, and what
    they end in. -/
def hangulParts : List (List String) :=
  [["G", "GG", "N", "D", "DD", "R", "M", "B", "BB", "S", "SS", "", "J", "JJ", "C", "K", "T", "P",
    "H"],
   ["A", "AE", "YA", "YAE", "EO", "E", "YEO", "YE", "O", "WA", "WAE", "OE", "YO", "U", "WEO", "WE",
    "WI", "YU", "EU", "YI", "I"],
   ["", "G", "GG", "GS", "N", "NJ", "NH", "D", "L", "LG", "LM", "LB", "LS", "LT", "LP", "LH", "M",
    "B", "BS", "S", "SS", "NG", "J", "C", "K", "T", "P", "H"]]

/-- The longest part that a text starts with, by its place among the parts, and the rest. -/
def longestPart? (parts : List String) (cs : List Char) : Option (Nat × List Char) :=
  parts.zipIdx.foldl
    (fun best (part, i) => match part.toList.isPrefixOf? cs, best with
      | none, _ => best
      | some rest, none => some (i, rest)
      | some rest, some (_, other) => if rest.length < other.length then some (i, rest) else best)
    none

/-- The number of the Hangul syllable with a name. -/
def hangulCode? (name : List Char) : Option Nat := do
  let cs ← "HANGUL SYLLABLE ".toList.isPrefixOf? name
  let (code, rest) ← hangulParts.foldlM
    (fun (code, cs) parts => do
      let (i, rest) ← longestPart? parts cs
      return (code * parts.length + i, rest))
    (0, cs)
  if rest.isEmpty then return 0xAC00 + code else none

/-! ## Further names -/

/-- Other names of characters. -/
def aliasNames : List (String × Nat) :=
  [("NUL", 0x0), ("NULL", 0x0), ("SOH", 0x1), ("START OF HEADING", 0x1), ("START OF TEXT", 0x2),
   ("STX", 0x2), ("END OF TEXT", 0x3), ("ETX", 0x3), ("END OF TRANSMISSION", 0x4), ("EOT", 0x4),
   ("ENQ", 0x5), ("ENQUIRY", 0x5), ("ACK", 0x6), ("ACKNOWLEDGE", 0x6), ("ALERT", 0x7),
   ("BEL", 0x7), ("BACKSPACE", 0x8), ("BS", 0x8), ("CHARACTER TABULATION", 0x9),
   ("HORIZONTAL TABULATION", 0x9), ("HT", 0x9), ("TAB", 0x9), ("END OF LINE", 0xA), ("EOL", 0xA),
   ("LF", 0xA), ("LINE FEED", 0xA), ("NEW LINE", 0xA), ("NL", 0xA), ("LINE TABULATION", 0xB),
   ("VERTICAL TABULATION", 0xB), ("VT", 0xB), ("FF", 0xC), ("FORM FEED", 0xC),
   ("CARRIAGE RETURN", 0xD), ("CR", 0xD), ("LOCKING-SHIFT ONE", 0xE), ("SHIFT OUT", 0xE),
   ("SO", 0xE), ("LOCKING-SHIFT ZERO", 0xF), ("SHIFT IN", 0xF), ("SI", 0xF),
   ("DATA LINK ESCAPE", 0x10), ("DLE", 0x10), ("DC1", 0x11), ("DEVICE CONTROL ONE", 0x11),
   ("DC2", 0x12), ("DEVICE CONTROL TWO", 0x12), ("DC3", 0x13), ("DEVICE CONTROL THREE", 0x13),
   ("DC4", 0x14), ("DEVICE CONTROL FOUR", 0x14), ("NAK", 0x15), ("NEGATIVE ACKNOWLEDGE", 0x15),
   ("SYN", 0x16), ("SYNCHRONOUS IDLE", 0x16), ("END OF TRANSMISSION BLOCK", 0x17), ("ETB", 0x17),
   ("CAN", 0x18), ("CANCEL", 0x18), ("END OF MEDIUM", 0x19), ("EOM", 0x19), ("SUB", 0x1A),
   ("SUBSTITUTE", 0x1A), ("ESC", 0x1B), ("ESCAPE", 0x1B), ("FILE SEPARATOR", 0x1C), ("FS", 0x1C),
   ("INFORMATION SEPARATOR FOUR", 0x1C), ("GROUP SEPARATOR", 0x1D), ("GS", 0x1D),
   ("INFORMATION SEPARATOR THREE", 0x1D), ("INFORMATION SEPARATOR TWO", 0x1E),
   ("RECORD SEPARATOR", 0x1E), ("RS", 0x1E), ("INFORMATION SEPARATOR ONE", 0x1F),
   ("UNIT SEPARATOR", 0x1F), ("US", 0x1F), ("SP", 0x20), ("DEL", 0x7F), ("DELETE", 0x7F),
   ("PAD", 0x80), ("PADDING CHARACTER", 0x80), ("HIGH OCTET PRESET", 0x81), ("HOP", 0x81),
   ("BPH", 0x82), ("BREAK PERMITTED HERE", 0x82), ("NBH", 0x83), ("NO BREAK HERE", 0x83),
   ("IND", 0x84), ("INDEX", 0x84), ("NEL", 0x85), ("NEXT LINE", 0x85), ("SSA", 0x86),
   ("START OF SELECTED AREA", 0x86), ("END OF SELECTED AREA", 0x87), ("ESA", 0x87),
   ("CHARACTER TABULATION SET", 0x88), ("HORIZONTAL TABULATION SET", 0x88), ("HTS", 0x88),
   ("CHARACTER TABULATION WITH JUSTIFICATION", 0x89),
   ("HORIZONTAL TABULATION WITH JUSTIFICATION", 0x89), ("HTJ", 0x89),
   ("LINE TABULATION SET", 0x8A), ("VERTICAL TABULATION SET", 0x8A), ("VTS", 0x8A),
   ("PARTIAL LINE DOWN", 0x8B), ("PARTIAL LINE FORWARD", 0x8B), ("PLD", 0x8B),
   ("PARTIAL LINE BACKWARD", 0x8C), ("PARTIAL LINE UP", 0x8C), ("PLU", 0x8C),
   ("REVERSE INDEX", 0x8D), ("REVERSE LINE FEED", 0x8D), ("RI", 0x8D), ("SINGLE SHIFT TWO", 0x8E),
   ("SINGLE-SHIFT-2", 0x8E), ("SS2", 0x8E), ("SINGLE SHIFT THREE", 0x8F), ("SINGLE-SHIFT-3", 0x8F),
   ("SS3", 0x8F), ("DCS", 0x90), ("DEVICE CONTROL STRING", 0x90), ("PRIVATE USE ONE", 0x91),
   ("PRIVATE USE-1", 0x91), ("PU1", 0x91), ("PRIVATE USE TWO", 0x92), ("PRIVATE USE-2", 0x92),
   ("PU2", 0x92), ("SET TRANSMIT STATE", 0x93), ("STS", 0x93), ("CANCEL CHARACTER", 0x94),
   ("CCH", 0x94), ("MESSAGE WAITING", 0x95), ("MW", 0x95), ("SPA", 0x96),
   ("START OF GUARDED AREA", 0x96), ("START OF PROTECTED AREA", 0x96),
   ("END OF GUARDED AREA", 0x97), ("END OF PROTECTED AREA", 0x97), ("EPA", 0x97), ("SOS", 0x98),
   ("START OF STRING", 0x98), ("SGC", 0x99), ("SINGLE GRAPHIC CHARACTER INTRODUCER", 0x99),
   ("SCI", 0x9A), ("SINGLE CHARACTER INTRODUCER", 0x9A), ("CONTROL SEQUENCE INTRODUCER", 0x9B),
   ("CSI", 0x9B), ("ST", 0x9C), ("STRING TERMINATOR", 0x9C), ("OPERATING SYSTEM COMMAND", 0x9D),
   ("OSC", 0x9D), ("PM", 0x9E), ("PRIVACY MESSAGE", 0x9E), ("APC", 0x9F),
   ("APPLICATION PROGRAM COMMAND", 0x9F), ("NBSP", 0xA0), ("SHY", 0xAD),
   ("LATIN CAPITAL LETTER GHA", 0x1A2), ("LATIN SMALL LETTER GHA", 0x1A3), ("CGJ", 0x34F),
   ("ALM", 0x61C), ("SYRIAC SUBLINEAR COLON SKEWED LEFT", 0x709), ("KANNADA LETTER LLLA", 0xCDE),
   ("LAO LETTER FO FON", 0xE9D), ("LAO LETTER FO FAY", 0xE9F), ("LAO LETTER RO", 0xEA3),
   ("LAO LETTER LO", 0xEA5), ("TIBETAN MARK BKA- SHOG GI MGO RGYAN", 0xFD0),
   ("HANGUL JONGSEONG YESIEUNG-KIYEOK", 0x11EC), ("HANGUL JONGSEONG YESIEUNG-SSANGKIYEOK", 0x11ED),
   ("HANGUL JONGSEONG SSANGYESIEUNG", 0x11EE), ("HANGUL JONGSEONG YESIEUNG-KHIEUKH", 0x11EF),
   ("FVS1", 0x180B), ("FVS2", 0x180C), ("FVS3", 0x180D), ("MVS", 0x180E), ("FVS4", 0x180F),
   ("ZWSP", 0x200B), ("ZWNJ", 0x200C), ("ZWJ", 0x200D), ("LRM", 0x200E), ("RLM", 0x200F),
   ("LRE", 0x202A), ("RLE", 0x202B), ("PDF", 0x202C), ("LRO", 0x202D), ("RLO", 0x202E),
   ("NNBSP", 0x202F), ("MMSP", 0x205F), ("WJ", 0x2060), ("LRI", 0x2066), ("RLI", 0x2067),
   ("FSI", 0x2068), ("PDI", 0x2069), ("WEIERSTRASS ELLIPTIC FUNCTION", 0x2118),
   ("MICR ON US SYMBOL", 0x2448), ("MICR DASH SYMBOL", 0x2449),
   ("LEFTWARDS TRIANGLE-HEADED ARROW WITH DOUBLE VERTICAL STROKE", 0x2B7A),
   ("RIGHTWARDS TRIANGLE-HEADED ARROW WITH DOUBLE VERTICAL STROKE", 0x2B7C),
   ("YI SYLLABLE ITERATION MARK", 0xA015), ("MYANMAR LETTER KHAMTI LLA", 0xAA6E),
   ("PRESENTATION FORM FOR VERTICAL RIGHT WHITE LENTICULAR BRACKET", 0xFE18), ("BOM", 0xFEFF),
   ("BYTE ORDER MARK", 0xFEFF), ("ZWNBSP", 0xFEFF), ("CUNEIFORM SIGN NU11 TENU", 0x122D4),
   ("CUNEIFORM SIGN NU11 OVER NU11 BUR OVER BUR", 0x122D5),
   ("MEDEFAIDRIN CAPITAL LETTER H", 0x16E56), ("MEDEFAIDRIN CAPITAL LETTER NG", 0x16E57),
   ("MEDEFAIDRIN SMALL LETTER H", 0x16E76), ("MEDEFAIDRIN SMALL LETTER NG", 0x16E77),
   ("HENTAIGANA LETTER E-1", 0x1B001),
   ("BYZANTINE MUSICAL SYMBOL FTHORA SKLIRON CHROMA VASIS", 0x1D0C5)]

/-- The number of the variation selector with a short name. -/
def selectorCode? (name : String) : Option Nat :=
  ((List.range 256).find? fun i => name = "VS" ++ toString (i + 1)).map fun i =>
    if i < 16 then 0xFE00 + i else 0xE0100 + (i - 16)

/-- The character of a name. -/
def named? (name : String) : Option Char :=
  let upper := name.toUpper
  let words := upper.toList.splitOn ' '
  (hangulCode? name.toList <|> unifiedIdeographs.code? name.toList <|>
    numberedFamilies.findSome? (·.code? upper.toList) <|>
    nameTables.findSome? (codeInTable? words) <|>
    aliasNames.lookup upper <|> selectorCode? upper).map Char.ofNat

example : named? "digit one" = some '1' := by decide +kernel

end JavaBuild.Text
