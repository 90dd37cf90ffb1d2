import JavaBuild.CommandLine.Option

/-!
# Lines of arguments

The arguments of a command are options, in any order and with their values, and
operands (`parse`). The operands of a command stand together: those behind a
further option do not count. Arguments that have no meaning are gathered, to be
told of in the end.
-/

namespace JavaBuild.CommandLine

/-- How many operands a command has. -/
inductive Arity where
  | one
  | several
  /-- One operand, and all arguments behind it. -/
  | rest
  deriving DecidableEq, Repr

/-- What a command is given. -/
structure Command where
  /-- The command as it is called. -/
  program : String
  /-- The line that shows how it is called. -/
  usage : String
  /-- The help, below that line. -/
  help : String
  options : List CommandOption
  /-- The name of its operands. -/
  operand : String
  arity : Arity
  /-- What the first operand may be, if this is limited. -/
  choices : List String := []
  deriving DecidableEq, Repr

/-- What is wrong with arguments. -/
inductive ArgumentFault where
  | missing (operand : String)
  | unrecognized (arguments : List String)
  | ambiguous (argument : String) (names : List String)
  | noValue (o : CommandOption)
  | unusedValue (o : CommandOption) (value : String)
  | noChoice (operand : String) (value : String) (choices : List String)
  deriving DecidableEq, Repr

/-- The message of a fault. -/
def ArgumentFault.message : ArgumentFault → String
  | missing operand => s!"the following arguments are required: {operand}"
  | unrecognized arguments => "unrecognized arguments: " ++ " ".intercalate arguments
  | ambiguous argument names =>
    s!"ambiguous option: {argument} could match " ++ ", ".intercalate names
  | noValue o => s!"argument {o.label}: expected one argument"
  | unusedValue o value => s!"argument {o.label}: ignored explicit argument {Text.quoted value}"
  | noChoice operand value choices =>
    s!"argument {operand}: invalid choice: {Text.quoted value} " ++
      "(choose from " ++ ", ".intercalate (choices.map Text.quoted) ++ ")"

/-- Why arguments are not carried out. -/
inductive Stop where
  | help (c : Command)
  | fault (c : Command) (f : ArgumentFault)

/-- Text on the output and the error output, and the exit status. -/
structure Answer where
  out : String := ""
  err : String := ""
  status : Nat

/-- What is answered instead of carrying out arguments. -/
def Stop.answer : Stop → Answer
  | help c => { out := c.usage ++ "\n" ++ c.help, status := 0 }
  | fault c f => { err := c.usage ++ s!"{c.program}: error: {f.message}\n", status := 2 }

/-- An option that is given, with its value. -/
structure Given where
  option : CommandOption
  value : String := ""
  deriving DecidableEq, Repr

/-- What arguments say. -/
structure Parsed where
  /-- The options in the order in which they are given. -/
  given : List Given := []
  /-- The operands, if there are any. -/
  operands : Option (List String) := none
  /-- Arguments without a meaning. -/
  extra : List String := []

/-- The values of an option. -/
def Parsed.valuesOf (p : Parsed) (o : CommandOption) : List String :=
  (p.given.filter fun g => g.option == o).map (·.value)

/-- The last value of an option. -/
def Parsed.valueOf? (p : Parsed) (o : CommandOption) : Option String := (p.valuesOf o).getLast?

/-- Whether an option is given. -/
def Parsed.has (p : Parsed) (o : CommandOption) : Bool := !(p.valuesOf o).isEmpty

/-- An argument with its role. -/
structure Token where
  text : String
  role : Role
  deriving DecidableEq, Repr

namespace Command

variable (c : Command)

/-- The arguments with their roles. Behind a separator all are operands. -/
def tokens : List String → Except Stop (List Token)
  | [] => .ok []
  | argument :: rest =>
    if argument = "--" then
      .ok (⟨argument, .separator⟩ :: rest.map fun text => ⟨text, .operand⟩)
    else match classify c.options argument with
      | .error names => .error (.fault c (.ambiguous argument names))
      | .ok role => (tokens rest).map (⟨argument, role⟩ :: ·)

/-- Whether an argument may be among operands. -/
def isPlain (t : Token) : Bool := t.role == .operand || t.role == .separator

/-- The number of arguments that the operands of the command take here. -/
def operandCount (ts : List Token) : Nat :=
  let separators := (ts.takeWhile fun t => t.role == .separator).length
  match ts.drop separators with
  | ⟨_, .operand⟩ :: rest => match c.arity with
    | .one => separators + 1 + (rest.takeWhile fun t => t.role == .separator).length
    | .several => separators + 1 + (rest.takeWhile isPlain).length
    | .rest => ts.length
  | _ => 0

/-- The operands in the arguments that they take. The separator is not one,
    unless all further arguments count. -/
def operandsIn (ts : List Token) : List String :=
  let texts := ts.map (·.text)
  if c.arity = .rest then texts else texts.erase "--"

/-- Take operands. -/
def takeOperands (ts : List Token) (p : Parsed) : Except Stop Parsed :=
  let operands := c.operandsIn ts
  match c.choices, operands with
  | _ :: _, first :: _ =>
    if c.choices.contains first then .ok { p with operands := some operands }
    else .error (.fault c (.noChoice c.operand first c.choices))
  | _, _ => .ok { p with operands := some operands }

/-- Take options. Asking for help ends everything. -/
def takeOptions : List Given → Parsed → Except Stop Parsed
  | [], p => .ok p
  | g :: gs, p =>
    if g.option.kind = .help then .error (.help c)
    else takeOptions gs { p with given := p.given ++ [g] }

/-- The options of one argument, a character attached to it that is no option,
    and the number of arguments behind it that are values. -/
def optionsIn (o : CommandOption) (short : Bool) (behind : List Token) :
    List Char → (equals : Bool) → Except ArgumentFault (List Given × Option String × Nat)
  | text, equals =>
    if o.kind = .value then .ok ([⟨o, String.ofList text⟩], none, 0)
    else
      let unused := .error (.unusedValue o (String.ofList text))
      match text with
      | [] => unused
      | next :: rest =>
        if !short || equals || next = '-' then unused
        else match optionNamed? c.options ['-', next] with
          | none => .ok ([⟨o, ""⟩], some (String.ofList ('-' :: next :: rest)), 0)
          | some o' => do
            let (given, extra, taken) ← match rest with
              | [] => alone o'
              | '=' :: value => optionsIn o' true behind value true
              | rest => optionsIn o' true behind rest false
            return (⟨o, ""⟩ :: given, extra, taken)
where
  /-- An option without anything attached to it. -/
  alone (o : CommandOption) : Except ArgumentFault (List Given × Option String × Nat) :=
    match o.kind, behind with
    | .value, ⟨value, .operand⟩ :: _ => .ok ([⟨o, value⟩], none, 1)
    | .value, _ => .error (.noValue o)
    | _, _ => .ok ([⟨o, ""⟩], none, 0)

/-- Take the option at the start of the arguments. Gives what is left of them. -/
def takeOption (t : Token) (behind : List Token) (p : Parsed) :
    Except Stop (Parsed × List Token) :=
  match t.role with
  | .option o short attached => do
    let found := match attached with
      | none => optionsIn.alone behind o
      | some a => c.optionsIn o short behind a.text a.equals
    let (given, extra, taken) ← found.mapError (.fault c)
    let p ← c.takeOptions given { p with extra := p.extra ++ extra.toList }
    return (p, behind.drop taken)
  | _ => .ok ({ p with extra := p.extra ++ [t.text] }, behind)

/-- Take all arguments. -/
def takeAll : (budget : Nat) → List Token → Parsed → Except Stop Parsed
  | 0, _, p => .ok p
  | budget + 1, ts, p =>
    let count := if p.operands.isNone then c.operandCount ts else 0
    let before := (ts.takeWhile isPlain).length
    match ts.drop before with
    | [] =>
      -- The last option is behind: what is left are operands or has no meaning.
      let left := { p with extra := p.extra ++ (ts.drop count).map (·.text) }
      if count = 0 then .ok left else c.takeOperands (ts.take count) left
    | option :: behind =>
      if 0 < before ∧ 0 < count then do
        takeAll budget (ts.drop count) (← c.takeOperands (ts.take count) p)
      else do
        let p := { p with extra := p.extra ++ (ts.take before).map (·.text) }
        let (p, left) ← c.takeOption option behind p
        takeAll budget left p

/-- What the arguments of a command say. -/
def parse (arguments : List String) : Except Stop Parsed := do
  let ts ← c.tokens arguments
  let p ← c.takeAll (ts.length + 1) ts {}
  if p.operands.isNone then throw (.fault c (.missing c.operand))
  return p

end Command

end JavaBuild.CommandLine
