/-!
# Lines

A text file's lines end at a line feed, a carriage return or the pair of them
(`unifyNewlines` writes each as one line feed), and a text is also cut at the
vertical tab, the form feed, the separators U+001C to U+001E and the Unicode
line and paragraph ends (`isLineEnd`). `lines` gives the lines of a text; what
follows the last line end is a line only if it is not empty.
-/

namespace JavaBuild.Text

/-- Write each carriage return, with a line feed after it or not, as one line feed. -/
def unifyNewlines : List Char → List Char
  | [] => []
  | '\r' :: '\n' :: cs => '\n' :: unifyNewlines cs
  | '\r' :: cs => '\n' :: unifyNewlines cs
  | c :: cs => c :: unifyNewlines cs

/-- Whether a line ends at this character. -/
def isLineEnd (c : Char) : Bool :=
  let n := c.toNat
  (0x0A ≤ n && n ≤ 0x0D) || (0x1C ≤ n && n ≤ 0x1E) || n == 0x85 || n == 0x2028 || n == 0x2029

/-- The pieces of a list that ends in an empty piece, without that piece. -/
def dropLastEmpty (pieces : List (List Char)) : List (List Char) :=
  if pieces.getLast? = some [] then pieces.dropLast else pieces

/-- The lines of a text, without their ends. -/
def lines (cs : List Char) : List (List Char) :=
  dropLastEmpty ((unifyNewlines cs).splitOnP isLineEnd)

end JavaBuild.Text
