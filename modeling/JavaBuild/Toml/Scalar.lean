import JavaBuild.Text.Integer
import JavaBuild.Toml.Error

/-!
# Dates, times and numbers of TOML

Each reader gives the longest form that stands at the start of the characters,
with what follows it, or nothing. A date has to be one of the calendar.
-/

namespace JavaBuild.Toml

/-- Whether a character is a decimal digit. -/
def isDigit (c : Char) : Bool := '0' ≤ c && c ≤ '9'

/-- The number with these decimal digits. -/
def decimal (ds : List Char) : Nat := ds.foldl (fun n c => 10 * n + (c.toNat - 48)) 0

/-- A number of so many digits that lies in a range. -/
def readField? (width low high : Nat) (cs : List Char) : Option (Nat × List Char) :=
  let ds := cs.take width
  let n := decimal ds
  if ds.length = width ∧ ds.all isDigit ∧ low ≤ n ∧ n ≤ high then some (n, cs.drop width) else none

/-- A certain character. -/
def readMark? (mark : Char) : List Char → Option (List Char)
  | c :: cs => if c = mark then some cs else none
  | [] => none

/-- The microseconds of a fraction, of which six digits count, if there is one. -/
def readFraction : List Char → Nat × List Char
  | '.' :: cs =>
    let ds := cs.takeWhile isDigit
    if ds.isEmpty then (0, '.' :: cs)
    else
      let six := ds.take 6
      (decimal six * Nat.pow 10 (6 - six.length), cs.dropWhile isDigit)
  | cs => (0, cs)

/-- A time of the day. -/
def readTime? (cs : List Char) : Option (Time × List Char) := do
  let (hour, rest) ← readField? 2 0 23 cs
  let (minute, rest) ← readField? 2 0 59 (← readMark? ':' rest)
  let (second, rest) ← readField? 2 0 59 (← readMark? ':' rest)
  let (microsecond, rest) := readFraction rest
  return (⟨hour, minute, second, microsecond⟩, rest)

/-- The distance from universal time in minutes, if there is one. -/
def readOffset (cs : List Char) : Option Int × List Char :=
  let signed := fun (sign : Int) rest => do
    let (hours, rest) ← readField? 2 0 23 rest
    let (minutes, rest) ← readField? 2 0 59 (← readMark? ':' rest)
    return (some (sign * (60 * hours + minutes : Nat)), rest)
  match cs with
  | c :: rest =>
    if c = 'Z' ∨ c = 'z' then (some 0, rest)
    else if c = '+' then (signed 1 rest).getD (none, cs)
    else if c = '-' then (signed (-1) rest).getD (none, cs)
    else (none, cs)
  | [] => (none, [])

/-- Whether a year has 366 days. -/
def isLeapYear (year : Nat) : Bool :=
  year % 4 == 0 && (year % 100 != 0 || year % 400 == 0)

/-- The number of days of a month. -/
def daysIn (year month : Nat) : Nat :=
  if month = 2 then if isLeapYear year then 29 else 28
  else if month = 4 ∨ month = 6 ∨ month = 9 ∨ month = 11 then 30
  else 31

/-- Whether a date is one of the calendar, which starts with the year 1. -/
def isCalendarDate (d : Date) : Bool := 1 ≤ d.year && d.day ≤ daysIn d.year d.month

/-- The time of a moment after its day. -/
def readMomentTime? (d : Date) : List Char → Option (Value × List Char)
  | c :: cs =>
    if c = 'T' ∨ c = 't' ∨ c = ' ' then do
      let (time, rest) ← readTime? cs
      let (ahead, rest) := readOffset rest
      return (.moment ⟨d, time, ahead⟩, rest)
    else none
  | [] => none

/-- A day. -/
def readDay? (cs : List Char) : Option (Date × List Char) := do
  let (year, rest) ← readField? 4 0 9999 cs
  let (month, rest) ← readField? 2 1 12 (← readMark? '-' rest)
  let (day, rest) ← readField? 2 1 31 (← readMark? '-' rest)
  return (⟨year, month, day⟩, rest)

/-- A day or a moment, if one starts here. -/
def readDate? (cs : List Char) : Option (Except TomlError (Value × List Char)) :=
  (readDay? cs).map fun (d, rest) =>
    if !isCalendarDate d then faultAt .date cs
    else .ok ((readMomentTime? d rest).getD (.date d, rest))

/-- The digits at the start of a text, in which single underscores may stand
    between two of them, and what follows. -/
def readDigits (isDigit : Char → Bool) : List Char → List Char × List Char
  | [] => ([], [])
  | c :: '_' :: d :: cs =>
    if !isDigit c then ([], c :: '_' :: d :: cs)
    else if isDigit d then
      let (ds, rest) := readDigits isDigit (d :: cs)
      (c :: ds, rest)
    else ([c], '_' :: d :: cs)
  | c :: cs =>
    if isDigit c then
      let (ds, rest) := readDigits isDigit cs
      (c :: ds, rest)
    else ([], c :: cs)

/-- The bases with a letter. -/
def baseOf? (c : Char) : Option Nat :=
  [('x', 16), ('o', 8), ('b', 2)].lookup c

/-- The value of a digit of any base. -/
def digitOf (c : Char) : Nat := (Text.hexValue? c).getD 0

/-- Whether a character is a digit of a base. -/
def isBaseDigit (base : Nat) (c : Char) : Bool := (Text.hexValue? c).any (· < base)

/-- A number with a letter for its base. -/
def readBased? : List Char → Option (Value × List Char)
  | '0' :: letter :: cs => do
    let base ← baseOf? letter
    match readDigits (isBaseDigit base) cs with
    | ([], _) => none
    | (ds, rest) => some (.int (ds.foldl (fun n c => base * n + digitOf c) 0 : Nat), rest)
  | _ => none

/-- The digits of a decimal number: zero, or digits that do not start with it. -/
def readWhole : List Char → List Char × List Char
  | '0' :: cs => (['0'], cs)
  | cs => readDigits isDigit cs

/-- The digits of a fraction, if there is one. -/
def readFractionDigits : List Char → Option (List Char × List Char)
  | '.' :: cs => match readDigits isDigit cs with
    | ([], _) => none
    | found => some found
  | _ => none

/-- A sign, and what follows it. -/
def readSign : List Char → Bool × List Char
  | '-' :: cs => (true, cs)
  | '+' :: cs => (false, cs)
  | cs => (false, cs)

/-- The exponent of a number, if there is one. -/
def readExponent : List Char → Option (Int × List Char)
  | c :: cs =>
    if c = 'e' ∨ c = 'E' then
      let (negative, cs) := readSign cs
      match readDigits isDigit cs with
      | ([], _) => none
      | (ds, rest) => some (if negative then -(decimal ds : Int) else decimal ds, rest)
    else none
  | [] => none

/-- A decimal number, if one starts here. -/
def readDecimal? (cs : List Char) : Option (Except TomlError (Value × List Char)) :=
  let (negative, cs) := readSign cs
  match readWhole cs with
  | ([], _) => none
  | (whole, rest) =>
    let fraction := readFractionDigits rest
    let rest := (fraction.map (·.2)).getD rest
    let exponent := readExponent rest
    let rest := (exponent.map (·.2)).getD rest
    if fraction.isNone ∧ exponent.isNone then
      if Text.maxDigits < whole.length then some (.error (.tooManyDigits whole.length))
      else
        let n : Int := decimal whole
        some (.ok (.int (if negative then -n else n), rest))
    else
      let digits := (fraction.map (·.1)).getD []
      let scale := ((exponent.map (·.1)).getD 0) - digits.length
      some (.ok (.float (.ofDecimal negative (decimal (whole ++ digits)) scale), rest))

/-- One of the numbers that are written in letters. -/
def readNamed? (cs : List Char) : Option (Value × List Char) :=
  let (negative, rest) := readSign cs
  if "inf".toList.isPrefixOf rest then some (.float (.infinity negative), rest.drop 3)
  else if "nan".toList.isPrefixOf rest then some (.float .nan, rest.drop 3)
  else none

/-- A number, if one starts here. -/
def readNumber? (cs : List Char) : Option (Except TomlError (Value × List Char)) :=
  match readBased? cs with
  | some found => some (.ok found)
  | none => (readDecimal? cs).orElse fun _ => (readNamed? cs).map .ok

/-- A date, a time or a number, if one starts here. -/
def readScalar? (cs : List Char) : Option (Except TomlError (Value × List Char)) :=
  (readDate? cs).orElse fun _ =>
    match readTime? cs with
    | some (time, rest) => some (.ok (.time time, rest))
    | none => readNumber? cs

end JavaBuild.Toml
