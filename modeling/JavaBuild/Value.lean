import JavaBuild.Artifact
import JavaBuild.Decimal.Shortest
import JavaBuild.Text.Integer
import JavaBuild.Text.Quoted

/-!
# Loosely typed values

A `Value` is what a settings file holds or a caller hands in as a dependency:
scalars, dates, lists and tables, and also artifacts and groups of providers.
`Value.literal` shows a value in messages, with texts in quotes, and
`Value.display` is the value as text, where a text stands for itself. A value can be
shown so if the whole numbers in it have not too many digits (`Value.isShowable`).
-/

namespace JavaBuild

/-- A day of the calendar. -/
structure Date where
  year : Nat
  month : Nat
  day : Nat
  deriving DecidableEq, Repr

/-- A time of the day. -/
structure Time where
  hour : Nat
  minute : Nat
  second : Nat
  microsecond : Nat
  deriving DecidableEq, Repr

/-- A day and a time, with the minutes by which its clock is ahead of
    universal time if they are known. -/
structure Moment where
  date : Date
  time : Time
  ahead : Option Int
  deriving DecidableEq, Repr

/-- A loosely typed value. -/
inductive Value where
  | null
  | bool (b : Bool)
  | int (n : Int)
  | float (x : Decimal.Binary64)
  | text (s : String)
  | date (d : Date)
  | time (t : Time)
  | moment (m : Moment)
  | list (items : List Value)
  /-- A list of fixed length. -/
  | tuple (items : List Value)
  /-- A table, its keys in the order in which they were first given. -/
  | table (fields : List (String × Value))
  | artifact (a : Artifact)
  /-- Artifacts that satisfy the same dependency, the selected one first. The
      members are not checked. -/
  | providers (members : List Value)
  deriving Inhabited

/-- A number with zeros in front up to this many digits. -/
def padded (width n : Nat) : String :=
  let ds := Nat.toDigits 10 n
  String.ofList (List.replicate (width - ds.length) '0' ++ ds)

/-- A day as `year-month-day`. -/
def Date.text (d : Date) : String :=
  s!"{padded 4 d.year}-{padded 2 d.month}-{padded 2 d.day}"

/-- A time as `hour:minute:second`, with six digits of fraction unless that is zero. -/
def Time.text (t : Time) : String :=
  let fraction := if t.microsecond = 0 then "" else "." ++ padded 6 t.microsecond
  s!"{padded 2 t.hour}:{padded 2 t.minute}:{padded 2 t.second}" ++ fraction

/-- A moment, its day and its time separated by `sep`. -/
def Moment.text (sep : String) (m : Moment) : String :=
  let zone := match m.ahead with
    | none => ""
    | some z =>
      let n := z.natAbs
      (if z < 0 then "-" else "+") ++ s!"{padded 2 (n / 60)}:{padded 2 (n % 60)}"
  m.date.text ++ sep ++ m.time.text ++ zone

/-- The numbers of a time, zero seconds and fractions left out at the end. -/
def Time.fields (t : Time) : List Nat :=
  [t.hour, t.minute] ++
    if t.microsecond ≠ 0 then [t.second, t.microsecond]
    else if t.second ≠ 0 then [t.second] else []

/-- The numbers of a day. -/
def Date.fields (d : Date) : List Nat := [d.year, d.month, d.day]

/-- Numbers separated by commas. -/
def commaSeparated (ns : List Nat) : String :=
  ", ".intercalate (ns.map toString)

/-- The offset of a clock, in days and seconds of the day. -/
def offsetLiteral (ahead : Int) : String :=
  if ahead = 0 then "datetime.timezone.utc"
  else
    let length := if ahead < 0 then s!"days=-1, seconds={86400 + 60 * ahead}"
      else s!"seconds={60 * ahead}"
    s!"datetime.timezone(datetime.timedelta({length}))"

/-- An artifact with all its fields named. -/
def Artifact.literal (a : Artifact) : String :=
  let classifier := match a.classifier with
    | none => "None"
    | some c => Text.quoted c
  s!"Artifact(group={Text.quoted a.group}, id={Text.quoted a.id}, " ++
    s!"version={Text.quoted a.version}, type={Text.quoted a.type}, classifier={classifier})"

/-- Items in parentheses. One item alone is followed by a comma. -/
def tupleLiteral : List String → String
  | [item] => "(" ++ item ++ ",)"
  | items => "(" ++ ", ".intercalate items ++ ")"

namespace Value

mutual

/-- A value as it is shown in messages. -/
def literal : Value → String
  | null => "None"
  | bool true => "True"
  | bool false => "False"
  | int n => toString n
  | float x => x.text
  | text s => Text.quoted s
  | date d => s!"datetime.date({commaSeparated d.fields})"
  | time t => s!"datetime.time({commaSeparated t.fields})"
  | moment m =>
    let zone := match m.ahead with
      | none => ""
      | some z => ", tzinfo=" ++ offsetLiteral z
    s!"datetime.datetime({commaSeparated (m.date.fields ++ m.time.fields)}{zone})"
  | list items => "[" ++ ", ".intercalate (literals items) ++ "]"
  | tuple items => tupleLiteral (literals items)
  | table fields => "\x7b" ++ ", ".intercalate (fieldLiterals fields) ++ "\x7d"
  | artifact a => a.literal
  | providers members => s!"ProviderGroup(members={tupleLiteral (literals members)})"

/-- The values of a list as they are shown in messages. -/
def literals : List Value → List String
  | [] => []
  | v :: vs => v.literal :: literals vs

/-- The fields of a table as they are shown in messages. -/
def fieldLiterals : List (String × Value) → List String
  | [] => []
  | (key, v) :: fields => (Text.quoted key ++ ": " ++ v.literal) :: fieldLiterals fields

end

/-- A value as text: a text stands for itself, a moment has a blank between day
    and time, all else is as in messages. -/
def display : Value → String
  | text s => s
  | date d => d.text
  | time t => t.text
  | moment m => m.text " "
  | v => v.literal

mutual

/-- Whether a value can be shown: no whole number in it has more digits than are allowed. -/
def isShowable : Value → Bool
  | int n => Text.isShowableInteger n
  | list items => areShowable items
  | tuple items => areShowable items
  | table fields => areShowableFields fields
  | providers members => areShowable members
  | _ => true

/-- Whether all values of a list can be shown. -/
def areShowable : List Value → Bool
  | [] => true
  | v :: vs => v.isShowable && areShowable vs

/-- Whether all fields of a table can be shown. -/
def areShowableFields : List (String × Value) → Bool
  | [] => true
  | (_, v) :: fields => v.isShowable && areShowableFields fields

end

/-- The value under a key of a table. -/
def field? (fields : List (String × Value)) (key : String) : Option Value :=
  fields.lookup key

/-- Whether a value counts as given: null, false, zero, and empty texts, lists
    and tables do not. -/
def isGiven : Value → Bool
  | null => false
  | bool b => b
  | int n => n != 0
  | float x => !x.isZero
  | text s => s != ""
  | list items => !items.isEmpty
  | tuple items => !items.isEmpty
  | table fields => !fields.isEmpty
  | _ => true

end Value

end JavaBuild
