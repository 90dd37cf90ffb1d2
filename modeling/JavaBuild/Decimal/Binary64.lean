/-!
# Double precision numbers

A `Binary64` is a number of the IEEE 754 format of 64 bits. It is a sign and a
magnitude, which is infinite, not a number, or `significand * 2 ^ exponent`
(`Magnitude`). `Binary64.ofDecimal` is the nearest one to a decimal number, of
two as near the one with an even significand. All arithmetic is exact, on
natural numbers.
-/

namespace JavaBuild.Decimal

/-- A number of the binary format of 64 bits. -/
structure Binary64 where
  bits : UInt64
  deriving DecidableEq, Repr, Inhabited

/-- What a double precision number is without its sign. -/
inductive Magnitude where
  | finite (significand : Nat) (exponent : Int)
  | infinite
  | notANumber
  deriving DecidableEq, Repr

namespace Binary64

/-- Whether the sign bit is set. -/
def negative (x : Binary64) : Bool := x.bits >>> 63 == 1

/-- The number without its sign. -/
def magnitude (x : Binary64) : Magnitude :=
  let field := ((x.bits >>> 52) &&& 0x7FF).toNat
  let fraction := (x.bits &&& 0xFFFFFFFFFFFFF).toNat
  if field = 0x7FF then if fraction = 0 then .infinite else .notANumber
  else if field = 0 then .finite fraction (-1074)
  else .finite (Nat.pow 2 52 + fraction) (field - 1075)

/-- The number with this sign and these remaining bits. -/
def ofParts (negative : Bool) (rest : Nat) : Binary64 :=
  ⟨(if negative then (1 : UInt64) <<< 63 else 0) ||| rest.toUInt64⟩

/-- Infinity of either sign. -/
def infinity (negative : Bool) : Binary64 := ofParts negative (0x7FF * Nat.pow 2 52)

/-- The value that is not a number. -/
def nan : Binary64 := ofParts false (0x7FF8 * Nat.pow 2 48)

/-- The quotient rounded to the nearest number, a half to the even one. -/
def roundQuotient (num den : Nat) : Nat :=
  let q := num / den
  let r := num % den
  if 2 * r < den then q
  else if den < 2 * r then q + 1
  else if q % 2 = 0 then q else q + 1

/-- `num / den` in units of `2 ^ e`, as a quotient of natural numbers. -/
def inUnits (num den : Nat) (e : Int) : Nat × Nat :=
  if 0 ≤ e then (num, den * Nat.pow 2 e.toNat) else (num * Nat.pow 2 (-e).toNat, den)

/-- The exponent of the last bit of the number nearest to `num / den`. -/
def lastBit (num den : Nat) : Int :=
  let guess : Int := (num.log2 : Int) - den.log2 - 52
  let (n, d) := inUnits num den guess
  max (if n / d < Nat.pow 2 52 then guess - 1 else guess) (-1074)

/-- The bits without sign of the number nearest to `num / den`. -/
def nearestBits (num den : Nat) : Nat :=
  let e := lastBit num den
  let (n, d) := inUnits num den e
  let m := roundQuotient n d
  -- A significand below 2 ^ 52 belongs to the least exponent, whose field is zero; a
  -- significand rounded up to 2 ^ 53 carries into the field.
  let bits := if m < Nat.pow 2 52 then m else (e + 1074).toNat * Nat.pow 2 52 + m
  min bits (0x7FF * Nat.pow 2 52)

/-- The number nearest to `digits * 10 ^ exponent`. Numbers that are surely too
    large or too small are told by their number of digits, so that no great
    power is computed. -/
def ofDecimal (negative : Bool) (digits : Nat) (exponent : Int) : Binary64 :=
  let size : Int := (Nat.toDigits 10 digits).length + exponent
  if digits = 0 ∨ size < -330 then ofParts negative 0
  else if 310 < size then infinity negative
  else if 0 ≤ exponent then ofParts negative (nearestBits (digits * Nat.pow 10 exponent.toNat) 1)
  else ofParts negative (nearestBits digits (Nat.pow 10 (-exponent).toNat))

/-- The integer part of a finite number, toward zero. -/
def truncate? (x : Binary64) : Option Int :=
  match x.magnitude with
  | .finite m e =>
    let n : Nat := if 0 ≤ e then m * Nat.pow 2 e.toNat else m / Nat.pow 2 (-e).toNat
    some (if x.negative then -n else n)
  | _ => none

/-- Whether the number is zero. -/
def isZero (x : Binary64) : Bool :=
  x.bits &&& 0x7FFFFFFFFFFFFFFF == 0

example : ofDecimal false 1 0 = ⟨0x3FF0000000000000⟩ := by decide +kernel
example : ofDecimal false 1 (-1) = ⟨0x3FB999999999999A⟩ := by decide +kernel
example : ofDecimal true 5 (-324) = ⟨0x8000000000000001⟩ := by decide +kernel
example : ofDecimal false 17976931348623159 292 = infinity false := by decide +kernel

end Binary64

end JavaBuild.Decimal
