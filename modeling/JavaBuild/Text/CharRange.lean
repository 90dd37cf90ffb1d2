/-!
# Sets of characters

Character classes given by tables are lists of inclusive ranges of code points
in increasing order. `CharRanges.contains` looks a character up, and
`CharRanges.start?` finds the first code point of the range it lies in, from
which a digit's value is read off.

What holds of all characters of a text is decided on the text, not on all
characters there are.
-/

namespace JavaBuild.Text

/-- A set of characters, as inclusive ranges of code points in increasing order. -/
abbrev CharRanges := List (Nat × Nat)

namespace CharRanges

/-- Whether a code point lies in one of the ranges. -/
def containsCode (ranges : CharRanges) (code : Nat) : Bool :=
  ranges.any fun (low, high) => low ≤ code && code ≤ high

/-- Whether a character lies in one of the ranges. -/
def contains (ranges : CharRanges) (c : Char) : Bool :=
  ranges.containsCode c.toNat

/-- The first code point of the range a character lies in. -/
def start? (ranges : CharRanges) (c : Char) : Option Nat :=
  (ranges.find? fun (low, high) => low ≤ c.toNat && c.toNat ≤ high).map (·.1)

end CharRanges

section

variable {p : Char → Prop} [DecidablePred p]

instance (priority := high) decidableForallMem (cs : List Char) : Decidable (∀ c ∈ cs, p c) :=
  List.decidableBAll p cs

instance (priority := high) decidableForallMem? (o : Option Char) : Decidable (∀ c ∈ o, p c) :=
  decidable_of_iff (∀ c ∈ o.toList, p c) (by simp [Option.mem_def])

end

end JavaBuild.Text
