import JavaBuild.Text.Blank
import JavaBuild.Text.Digit

/-!
# Integers in text

`readInteger` reads a whole number in decimal notation: blanks around it, a
sign, digits of any script, and single underscores between two digits. A number
of more than 4300 digits is refused, whatever its leading zeros. Nor can a number
of so many digits be shown (`isShowableInteger`).
-/

namespace JavaBuild.Text

/-- Why a text is not read as an integer. -/
inductive IntegerFault where
  | malformed
  /-- There are this many digits, more than are allowed. -/
  | tooLong (digits : Nat)
  deriving DecidableEq, Repr

/-- The most digits a number may have. -/
def maxDigits : Nat := 4300

/-- Whether a number has no more digits than are allowed. -/
def isShowableInteger (n : Int) : Bool := n.natAbs < Nat.pow 10 maxDigits

/-- The values of the digits of a text of digits, in which single underscores
    may stand between two digits. -/
def digitValues? : List Char → Option (List Nat)
  | [] => none
  | [c] => (digitValue? c).map ([·])
  | c :: '_' :: cs => do
    let d ← digitValue? c
    let ds ← digitValues? cs
    return d :: ds
  | c :: cs => do
    let d ← digitValue? c
    let ds ← digitValues? cs
    return d :: ds

/-- The number with these decimal digits, the first the highest. -/
def ofDigits (ds : List Nat) : Nat :=
  ds.foldl (fun n d => 10 * n + d) 0

/-- A sign, if there is one, and what follows it. -/
def splitSign : List Char → Bool × List Char
  | '-' :: cs => (true, cs)
  | '+' :: cs => (false, cs)
  | cs => (false, cs)

/-- Read an integer. -/
def readInteger (s : String) : Except IntegerFault Int :=
  let (negative, cs) := splitSign (trim s.toList)
  match digitValues? cs with
  | none => .error .malformed
  | some ds =>
    if maxDigits < ds.length then .error (.tooLong ds.length)
    else if negative then .ok (-(ofDigits ds : Nat))
    else .ok (ofDigits ds : Nat)

end JavaBuild.Text
