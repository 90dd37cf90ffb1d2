import JavaBuild.Text.Blank
import JavaBuild.Text.Digit
import JavaBuild.Text.Letter

/-!
# The parts of patterns

A pattern is a tree of parts (`Node`): tests of one character, sequences and
alternatives, repetitions, groups and references to what they matched, and
conditions on the place. `Node.width` gives the least and the greatest number of
characters that a part matches.
-/

namespace JavaBuild.Pattern

/-- How letters are compared. -/
inductive Casing where
  | exact
  /-- Capital and small letters of ASCII are the same. -/
  | ascii
  /-- Capital and small letters are the same. -/
  | folded
  deriving DecidableEq, Repr

/-- A small letter, as far as letters are compared so. -/
def Casing.lower : Casing → Nat → Nat
  | exact, code => code
  | ascii, code => if 0x41 ≤ code ∧ code ≤ 0x5A then code + 32 else code
  | folded, code => Text.lowerCode code

/-- The code points that count as the same as this one. -/
def Casing.same : Casing → Nat → List Nat
  | exact, code => [code]
  | ascii, code =>
    let small := ascii.lower code
    if 0x61 ≤ small ∧ small ≤ 0x7A then [small, small - 32] else [code]
  | folded, code => (Text.variantsOf (Text.lowerCode code)).flatMap Text.withSmallLetter

/-- Named classes of characters. -/
inductive Category where
  | digit
  | blank
  | word
  deriving DecidableEq, Repr

/-- Whether a character is in a class, or in its part within ASCII. -/
def Category.contains (asciiOnly : Bool) (c : Char) : Category → Bool
  | digit => if asciiOnly then c.isDigit else Text.isDecimalDigit c
  | blank =>
    if asciiOnly then c == ' ' || (0x09 ≤ c.toNat && c.toNat ≤ 0x0D) else Text.isBlank c
  | word => if asciiOnly then Text.isAsciiWordChar c else Text.isWordChar c

/-- An item of a set of characters. -/
inductive SetItem where
  | range (low high : Nat)
  | category (kind : Category) (negated asciiOnly : Bool)
  deriving DecidableEq, Repr

/-- A test of one character. -/
structure CharTest where
  items : List SetItem
  negated : Bool
  casing : Casing
  deriving DecidableEq, Repr

/-- Whether one of the code points is that of the item. -/
def SetItem.matches (casing : Casing) (c : Char) : SetItem → Bool
  | range low high => (casing.same c.toNat).any fun code => low ≤ code && code ≤ high
  | category kind negated asciiOnly => kind.contains asciiOnly c != negated

/-- Whether a character passes a test. -/
def CharTest.accepts (t : CharTest) (c : Char) : Bool :=
  t.items.any (·.matches t.casing c) != t.negated

/-- How often a repetition is tried. -/
inductive Greed where
  /-- As often as possible first. -/
  | most
  /-- As seldom as possible first. -/
  | least
  /-- As often as possible, and never less. -/
  | possessive
  deriving DecidableEq, Repr

/-- A condition on a place. -/
inductive Place where
  | start
  | finish
  | lineStart
  | lineFinish
  /-- At the end, or before a line feed at the end. -/
  | lastFinish
  | wordEdge (inside asciiOnly : Bool)
  deriving DecidableEq, Repr

/-- The least and the greatest number of characters. -/
abbrev Width := Nat × Nat

/-- A part of a pattern. -/
inductive Node where
  | empty
  | one (test : CharTest)
  | place (p : Place)
  | seq (first second : Node)
  | alt (first second : Node)
  /-- From `least` to `most` times, or without bound. -/
  | loop (greed : Greed) (least : Nat) (most : Option Nat) (body : Node)
  | group (index : Nat) (body : Node)
  | atomic (body : Node)
  /-- What a group has matched, once more. -/
  | again (casing : Casing) (index : Nat)
  /-- A condition on what follows, or on what stands before in so many characters. -/
  | look (before : Option Width) (negated : Bool) (body : Node)
  /-- One part or another, according to whether a group has matched. -/
  | choice (index : Nat) (yes no : Node)
  deriving DecidableEq, Repr, Inhabited

/-- A width that stands for all greater ones. -/
def maxWidth : Nat := Nat.pow 2 64

namespace Node

/-- The width of a part, where groups have these widths. -/
def width (groups : Nat → Width) : Node → Width
  | empty | place _ | look .. => (0, 0)
  | one _ => (1, 1)
  | seq a b =>
    let (l, h) := a.width groups
    let (l', h') := b.width groups
    (min (l + l') maxWidth, min (h + h') maxWidth)
  | alt a b =>
    let (l, h) := a.width groups
    let (l', h') := b.width groups
    (min l l', max h h')
  | loop _ least most body =>
    let (l, h) := body.width groups
    let high := match most with
      | some n => h * n
      | none => if h = 0 then 0 else maxWidth
    (min (l * least) maxWidth, min high maxWidth)
  | group _ body => body.width groups
  | atomic body => body.width groups
  | again _ index => groups index
  | choice _ yes no =>
    let (l, h) := yes.width groups
    let (l', h') := no.width groups
    (min l l', max h h')

end Node

end JavaBuild.Pattern
