import JavaBuild.Text.Printable

/-!
# Quoted text

Messages show a text between quotes (`quoted`). The quotes are single ones
unless the text holds a single quote and no double one. A quote of the kind
around the text and the backslash follow a backslash, tab, line feed and
carriage return have their letters, and a character that is not printable is
written by its code point, in two, four or eight hexadecimal digits after `x`,
`u` or `U`.
-/

namespace JavaBuild.Text

/-- The last `width` hexadecimal digits of a number, in small letters. -/
def hexDigits : (width : Nat) → Nat → List Char
  | 0, _ => []
  | w + 1, n => hexDigits w (n / 16) ++ [Nat.digitChar (n % 16)]

/-- The quote that a text is shown in. -/
def quoteFor (cs : List Char) : Char :=
  if cs.contains '\'' && !cs.contains '"' then '"' else '\''

/-- A character of a text shown between the quotes `quote`. -/
def escapeChar (quote c : Char) : List Char :=
  if c = quote ∨ c = '\\' then ['\\', c]
  else if c = '\t' then ['\\', 't']
  else if c = '\n' then ['\\', 'n']
  else if c = '\r' then ['\\', 'r']
  else if isPrintable c then [c]
  else if c.toNat < 0x100 then '\\' :: 'x' :: hexDigits 2 c.toNat
  else if c.toNat < 0x10000 then '\\' :: 'u' :: hexDigits 4 c.toNat
  else '\\' :: 'U' :: hexDigits 8 c.toNat

/-- A text between quotes. -/
def quoted (s : String) : String :=
  let cs := s.toList
  let quote := quoteFor cs
  String.ofList (quote :: cs.flatMap (escapeChar quote) ++ [quote])

example : quoted "it's" = "\"it's\"" := by decide +kernel
example : quoted "a'b\"c" = "'a\\'b\"c'" := by decide +kernel
example : quoted "\x07é\u200b" = "'\\x07é\\u200b'" := by decide +kernel

end JavaBuild.Text
