import JavaBuild.Decimal.Binary64

/-!
# The shortest decimal of a double precision number

`shortest` finds the fewest decimal digits that read back as a given number, and
among those the nearest to it. A decimal reads back exactly if it lies in the
interval of the real numbers that round to the number; the ends belong to it if
the significand is even. For each count of digits only the two neighbours of the
number on the grid with that many digits need to be tested.

A `Layout` says how digits and exponent are written as text. `Binary64.text` is
positional for numbers of a size from -3 to 16, always with a fraction, and else
has an `e`, a sign and at least two exponent digits.
-/

namespace JavaBuild.Decimal

/-- A positive decimal number, `digits * 10 ^ exponent`. -/
structure Numeral where
  digits : Nat
  exponent : Int
  deriving DecidableEq, Repr

/-- A positive rational number, as a quotient. -/
structure Ratio where
  num : Nat
  den : Nat

/-- `n * b ^ e`. -/
def Ratio.ofPower (n b : Nat) (e : Int) : Ratio :=
  if 0 ≤ e then ⟨n * Nat.pow b e.toNat, 1⟩ else ⟨n, Nat.pow b (-e).toNat⟩

/-- Whether one number is less than another. -/
def Ratio.lt (a b : Ratio) : Bool := a.num * b.den < b.num * a.den

/-- The real numbers that round to `significand * 2 ^ exponent`, as the two ends
    of their interval. Below a power of two the next number is half as far. -/
def roundingInterval (significand : Nat) (exponent : Int) : Ratio × Ratio :=
  let low := if significand = Nat.pow 2 52 ∧ -1074 < exponent then 4 * significand - 1
    else 4 * significand - 2
  (.ofPower low 2 (exponent - 2), .ofPower (4 * significand + 2) 2 (exponent - 2))

/-- Whether a number reads back: it lies in the interval, whose ends belong to
    it or not. -/
def readsBack (interval : Ratio × Ratio) (closed : Bool) (x : Ratio) : Bool :=
  if closed then !x.lt interval.1 && !interval.2.lt x
  else interval.1.lt x && x.lt interval.2

/-- The number `k` with `10 ^ (k - 1) ≤ x < 10 ^ k`. -/
def decimalSize (x : Ratio) : Int :=
  if x.den ≤ x.num then (Nat.toDigits 10 (x.num / x.den)).length
  else
    let zeros := (List.range 400).find? fun j => x.den ≤ x.num * Nat.pow 10 j
    1 - (zeros.getD 400 : Nat)

/-- The better of two neighbours of `x` on a grid, of which some read back: the
    nearer, and of two as near the even one. -/
def nearer? (x : Ratio) (ok : Ratio → Bool) (below : Nat) (exponent : Int) : Option Numeral :=
  let low := Ratio.ofPower below 10 exponent
  let high := Ratio.ofPower (below + 1) 10 exponent
  match ok low, ok high with
  | false, false => none
  | true, false => some ⟨below, exponent⟩
  | false, true => some ⟨below + 1, exponent⟩
  | true, true =>
    -- Compare `2 x` with the sum of the neighbours, `(2 below + 1) * 10 ^ exponent`.
    let middle := Ratio.ofPower (2 * below + 1) 10 exponent
    let double : Ratio := ⟨2 * x.num, x.den⟩
    if double.lt middle then some ⟨below, exponent⟩
    else if middle.lt double then some ⟨below + 1, exponent⟩
    else if below % 2 = 0 then some ⟨below, exponent⟩ else some ⟨below + 1, exponent⟩

/-- The shortest decimal that reads back as `significand * 2 ^ exponent`. Seventeen
    digits always do. -/
def shortest (significand : Nat) (exponent : Int) : Numeral :=
  let x := Ratio.ofPower significand 2 exponent
  let ok := readsBack (roundingInterval significand exponent) (significand % 2 == 0)
  let size := decimalSize x
  let candidates := (List.range 17).filterMap fun i =>
    let e := size - (i + 1 : Nat)
    let scaled :=
      if 0 ≤ e then x.num / (x.den * Nat.pow 10 e.toNat)
      else x.num * Nat.pow 10 (-e).toNat / x.den
    nearer? x ok scaled e
  candidates.head?.getD ⟨significand, exponent⟩

/-- A decimal without zeros at the end of its digits. -/
def Numeral.normalize (d : Numeral) : Numeral :=
  let ds := Nat.toDigits 10 d.digits
  let zeros := (ds.reverse.takeWhile (· == '0')).length
  if d.digits = 0 then d else ⟨d.digits / Nat.pow 10 zeros, d.exponent + zeros⟩

/-- How a decimal is written. -/
structure Layout where
  /-- The number is positional if its size lies strictly above this. -/
  positionalAbove : Int
  /-- The number is positional if its size is at most this. -/
  positionalUpTo : Int
  /-- What is written after a positional number without fraction. -/
  wholeSuffix : String
  /-- How many digits the exponent has at least. -/
  exponentDigits : Nat
  notANumber : String
  infinite : String

/-- Numbers of size -3 to 16 are positional and always have a fraction; the
    exponent has two digits at least. -/
def Layout.float : Layout :=
  ⟨-4, 16, ".0", 2, "nan", "inf"⟩

/-- A decimal in a layout. -/
def Layout.write (layout : Layout) (d : Numeral) : String :=
  let d := d.normalize
  let ds := Nat.toDigits 10 d.digits
  let size : Int := ds.length + d.exponent
  if layout.positionalAbove < size ∧ size ≤ layout.positionalUpTo then
    if size ≤ 0 then
      "0." ++ String.ofList (List.replicate (-size).toNat '0' ++ ds)
    else if 0 ≤ d.exponent then
      String.ofList (ds ++ List.replicate d.exponent.toNat '0') ++ layout.wholeSuffix
    else
      String.ofList (ds.take size.toNat) ++ "." ++ String.ofList (ds.drop size.toNat)
  else
    let e := size - 1
    let es := Nat.toDigits 10 e.natAbs
    let mantissa := match ds with
      | [] => ""
      | [c] => String.singleton c
      | c :: cs => String.ofList (c :: '.' :: cs)
    mantissa ++ (if e < 0 then "e-" else "e+") ++
      String.ofList (List.replicate (layout.exponentDigits - es.length) '0' ++ es)

/-- A double precision number as text. -/
def Binary64.text (x : Binary64) : String :=
  let sign := if x.negative then "-" else ""
  match x.magnitude with
  | .notANumber => Layout.float.notANumber
  | .infinite => sign ++ Layout.float.infinite
  | .finite 0 _ => sign ++ "0" ++ Layout.float.wholeSuffix
  | .finite m e => sign ++ Layout.float.write (shortest m e)

end JavaBuild.Decimal
