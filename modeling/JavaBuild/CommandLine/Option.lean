import JavaBuild.Text.Digit
import JavaBuild.Text.Quoted

/-!
# Options

A command has options, each of one or more names (`CommandOption`). A short name
is a letter behind one dash, a long name a word behind two. An argument names an
option (`classify`)

* by its name, perhaps with a value behind `=`;
* by the start of a long name, if no other starts so, perhaps with a value;
* by a short name with further characters behind it: a value, or more options.

Any other argument that starts with a dash is an unknown option, unless it is a
negative number or holds a blank.
-/

namespace JavaBuild.CommandLine

/-- What an option asks for. -/
inductive OptionKind where
  | help
  | flag
  /-- The option is followed by a value. -/
  | value
  deriving DecidableEq, Repr

/-- An option of a command. -/
structure CommandOption where
  names : List String
  kind : OptionKind
  deriving DecidableEq, Repr

/-- The name that an option goes by. -/
def CommandOption.label (o : CommandOption) : String := "/".intercalate o.names

/-- Characters attached to the name of an option. -/
structure Attached where
  /-- Whether an equals sign is between them. -/
  equals : Bool
  text : List Char
  deriving DecidableEq, Repr

/-- What an argument is. -/
inductive Role where
  | operand
  /-- The argument after which there are no options. -/
  | separator
  | unknownOption
  | option (o : CommandOption) (short : Bool) (attached : Option Attached)
  deriving DecidableEq, Repr

/-- What is found of an option, by its name or a part of it. -/
structure Found where
  name : String
  option : CommandOption
  attached : Option Attached

/-- The names of options, each with its option. -/
def named (options : List CommandOption) : List (String × CommandOption) :=
  options.flatMap fun o => o.names.map fun name => (name, o)

/-- The option of a name. -/
def optionNamed? (options : List CommandOption) (name : List Char) : Option CommandOption :=
  (named options).lookup (String.ofList name)

/-- Whether a name or an argument has two dashes in front. -/
def isLong : List Char → Bool
  | '-' :: '-' :: _ => true
  | _ => false

/-- An argument up to the first equals sign, and what is behind it. -/
def splitEquals (cs : List Char) : List Char × Option Attached :=
  match cs.dropWhile (· != '=') with
  | [] => (cs, none)
  | _ :: rest => (cs.takeWhile (· != '='), some ⟨true, rest⟩)

/-- The options that an argument may mean which is no option's name. -/
def candidates (options : List CommandOption) (cs : List Char) : List Found :=
  if isLong cs then
    let (start, attached) := splitEquals cs
    (named options).filterMap fun (name, o) =>
      if start.isPrefixOf name.toList then some ⟨name, o, attached⟩ else none
  else
    (named options).filterMap fun (name, o) =>
      if name.toList = cs.take 2 then some ⟨name, o, some ⟨false, cs.drop 2⟩⟩ else none

/-- Whether characters are digits, at least one. -/
def areDigits (cs : List Char) : Bool := !cs.isEmpty && cs.all Text.isDecimalDigit

/-- Whether an argument is a negative number, a line feed at its end apart. -/
def isNegativeNumber : List Char → Bool
  | '-' :: cs =>
    let cs := if cs.getLast? = some '\n' then cs.dropLast else cs
    areDigits cs || (match cs.dropWhile Text.isDecimalDigit with
      | '.' :: fraction => areDigits fraction
      | _ => false)
  | _ => false

/-- What an argument is that stands before any separator, or the names of the
    options it may mean if these are several. -/
def classify (options : List CommandOption) (argument : String) : Except (List String) Role :=
  let cs := argument.toList
  if cs.head? ≠ some '-' then .ok .operand
  else match optionNamed? options cs with
    | some o => .ok (.option o (!isLong cs) none)
    | none =>
      if cs.length = 1 then .ok .operand
      else
        let (start, attached) := splitEquals cs
        match attached, optionNamed? options start with
        | some attached, some o => .ok (.option o (!isLong start) (some attached))
        | _, _ => match candidates options cs with
          | [found] => .ok (.option found.option (!isLong found.name.toList) found.attached)
          | [] =>
            if isNegativeNumber cs || cs.contains ' ' then .ok .operand else .ok .unknownOption
          | several => .error (several.map (·.name))

end JavaBuild.CommandLine
