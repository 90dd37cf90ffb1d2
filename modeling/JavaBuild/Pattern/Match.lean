import JavaBuild.Pattern.Reader

/-!
# Matching

A pattern is searched for in a text from each place on (`Pattern.occursIn`). A
part is matched at a place (`Spot`) together with what is to follow: each way to
match the part is tried in turn until what follows succeeds.

A repetition goes on only as long as it makes progress, which bounds the number
of rounds by the length of the text.
-/

namespace JavaBuild

namespace Pattern

/-- A place in a text, and what groups have matched. -/
structure Spot where
  /-- The characters before the place, the nearest first. -/
  before : List Char
  after : List Char
  groups : List (Nat × List Char) := []

namespace Spot

/-- How far from the start of the text a place is. -/
def position (s : Spot) : Nat := s.before.length

/-- The place after so many further characters. -/
def forward (s : Spot) (n : Nat) : Spot :=
  { s with before := (s.after.take n).reverse ++ s.before, after := s.after.drop n }

/-- The place so many characters before. -/
def back (s : Spot) (n : Nat) : Spot :=
  { s with before := s.before.drop n, after := (s.before.take n).reverse ++ s.after }

/-- The place with what a group has matched, from another place on. -/
def close (s : Spot) (index : Nat) (start : Spot) : Spot :=
  { s with groups := (index, start.after.take (s.position - start.position)) :: s.groups }

/-- Whether a character beside the place is one of a word. -/
def isWord (asciiOnly : Bool) (cs : List Char) : Bool :=
  cs.head?.any (Category.contains asciiOnly · .word)

/-- Whether a condition holds at a place. -/
def satisfies (s : Spot) : Place → Bool
  | .start => s.before.isEmpty
  | .finish => s.after.isEmpty
  | .lineStart => s.before.isEmpty || s.before.head? == some '\n'
  | .lineFinish => s.after.isEmpty || s.after.head? == some '\n'
  | .lastFinish => s.after.isEmpty || s.after == ['\n']
  | .wordEdge inside asciiOnly =>
    let edge := isWord asciiOnly s.before != isWord asciiOnly s.after
    -- In an empty text there is neither an edge nor a place that is none.
    if s.before.isEmpty ∧ s.after.isEmpty then false else edge != inside

/-- The place after a text, if it stands here. -/
def skip (casing : Casing) (s : Spot) (text : List Char) : Option Spot :=
  let same := fun (a b : Char) => casing.lower a.toNat == casing.lower b.toNat
  if text.length ≤ s.after.length ∧ (text.zip s.after).all fun (a, b) => same a b then
    some (s.forward text.length)
  else none

end Spot

/-- What is to follow a part: the place where all is matched, if there is one. -/
abbrev Rest := Spot → Option Spot

/-- Match a part so many times. -/
def exactly (step : Spot → Rest → Option Spot) : Nat → Spot → Rest → Option Spot
  | 0, s, k => k s
  | n + 1, s, k => step s fun s' => exactly step n s' k

/-- Match a part up to so many times, as often as possible first. -/
def greedily (step : Spot → Rest → Option Spot) : Nat → Spot → Rest → Option Spot
  | 0, s, k => k s
  | n + 1, s, k =>
    (step s fun s' => if s'.position = s.position then k s' else greedily step n s' k).or (k s)

/-- Match a part up to so many times, as seldom as possible first. -/
def lazily (step : Spot → Rest → Option Spot) : Nat → Spot → Rest → Option Spot
  | 0, s, k => k s
  | n + 1, s, k =>
    (k s).or (step s fun s' => if s'.position = s.position then k s' else lazily step n s' k)

/-- Match a part up to so many times, each time in the first way only. -/
def possessively (step : Spot → Rest → Option Spot) : Nat → Spot → Spot
  | 0, s => s
  | n + 1, s => match step s some with
    | none => s
    | some s' => if s'.position = s.position then s' else possessively step n s'

/-- Match a part so many times, each time in the first way only. -/
def inFirstWay (step : Spot → Rest → Option Spot) : Nat → Spot → Option Spot
  | 0, s => some s
  | n + 1, s => (step s some).bind (inFirstWay step n)

/-- The number of rounds beyond the least that can make progress, and one more. -/
def rounds (least : Nat) (most : Option Nat) (s : Spot) : Nat :=
  match most with
  | none => s.after.length + 1
  | some most => min (most - least) (s.after.length + 1)

/-- Match a part at a place, and then what follows. -/
def Node.run : Node → Spot → Rest → Option Spot
  | empty, s, k => k s
  | one test, s, k => match s.after with
    | [] => none
    | c :: _ => if test.accepts c then k (s.forward 1) else none
  | place p, s, k => if s.satisfies p then k s else none
  | seq a b, s, k => a.run s fun s' => b.run s' k
  | alt a b, s, k => (a.run s k).or (b.run s k)
  | loop .most least most body, s, k =>
    exactly body.run least s fun s' => greedily body.run (rounds least most s') s' k
  | loop .least least most body, s, k =>
    exactly body.run least s fun s' => lazily body.run (rounds least most s') s' k
  | loop .possessive least most body, s, k =>
    match inFirstWay body.run least s with
    | none => none
    | some s' => k (possessively body.run (rounds least most s') s')
  | group index body, s, k => body.run s fun s' => k (s'.close index s)
  | atomic body, s, k => match body.run s some with
    | none => none
    | some s' => k s'
  | again casing index, s, k =>
    match (s.groups.lookup index).bind (s.skip casing) with
    | none => none
    | some s' => k s'
  | look before negated body, s, k =>
    let found := match before with
      | none => body.run s some
      | some (width, _) => if s.position < width then none else body.run (s.back width) some
    match found with
    | none => if negated then k s else none
    | some s' => if negated then none else k { s with groups := s'.groups }
  | choice index yes no, s, k =>
    if (s.groups.lookup index).isSome then yes.run s k else no.run s k

/-- Whether a part matches somewhere from a place on. -/
def Node.findFrom (node : Node) : (before after : List Char) → Bool
  | before, [] => (node.run ⟨before, [], []⟩ some).isSome
  | before, c :: after =>
    (node.run ⟨before, c :: after, []⟩ some).isSome || node.findFrom (c :: before) after

end Pattern

/-- A pattern with the text it is written in. -/
structure Pattern where
  text : String
  node : Pattern.Node
  deriving DecidableEq, Repr

namespace Pattern

/-- Read a pattern, in which letter case may be ignored. -/
def ofString (text : String) (ignoreCase : Bool) : Except PatternError Pattern :=
  (readNode { ignoreCase } text.toList).map fun node => ⟨text, node⟩

/-- Whether a pattern matches somewhere in a text. -/
def occursIn (p : Pattern) (text : String) : Bool := p.node.findFrom [] text.toList

end Pattern

end JavaBuild
