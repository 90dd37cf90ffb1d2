import JavaBuild.Pattern.Error
import JavaBuild.Pattern.Syntax
import JavaBuild.Text.CharacterName
import JavaBuild.Text.Identifier
import JavaBuild.Text.Integer

/-!
# Reading patterns

A pattern is read token by token; a token is a character, or a backslash with
the character after it. Reading keeps track of the groups, of the flags set at
the start, and of the group from which on a condition on what stands before may
not refer (`Reading`). Flags that hold for a part only are handed down.
-/

namespace JavaBuild.Pattern

/-- The flags of a part. -/
structure Flags where
  ignoreCase : Bool := false
  multiLine : Bool := false
  dotAll : Bool := false
  verbose : Bool := false
  ascii : Bool := false
  unicode : Bool := false
  template : Bool := false
  deriving DecidableEq, Repr

namespace Flags

/-- The flag of a letter. -/
def ofLetter? : Char → Option Flags
  | 'i' => some { ignoreCase := true }
  | 'm' => some { multiLine := true }
  | 's' => some { dotAll := true }
  | 'x' => some { verbose := true }
  | 'a' => some { ascii := true }
  | 'u' => some { unicode := true }
  | 't' => some { template := true }
  | _ => none

/-- The flags of both. -/
def or (f g : Flags) : Flags where
  ignoreCase := f.ignoreCase || g.ignoreCase
  multiLine := f.multiLine || g.multiLine
  dotAll := f.dotAll || g.dotAll
  verbose := f.verbose || g.verbose
  ascii := f.ascii || g.ascii
  unicode := f.unicode || g.unicode
  template := f.template || g.template

/-- The flags of the first that are not in the second. -/
def without (f g : Flags) : Flags where
  ignoreCase := f.ignoreCase && !g.ignoreCase
  multiLine := f.multiLine && !g.multiLine
  dotAll := f.dotAll && !g.dotAll
  verbose := f.verbose && !g.verbose
  ascii := f.ascii && !g.ascii
  unicode := f.unicode && !g.unicode
  template := f.template && !g.template

/-- Whether the flags choose an alphabet. -/
def setsAlphabet (f : Flags) : Bool := f.ascii || f.unicode

/-- The flags of a part for which some are added and some taken away. -/
def adjusted (f added removed : Flags) : Flags :=
  let f := if added.setsAlphabet then { f with ascii := false, unicode := false } else f
  (f.or added).without removed

/-- How letters are compared. -/
def casing (f : Flags) : Casing :=
  if !f.ignoreCase then .exact else if f.ascii then .ascii else .folded

end Flags

/-- A pattern while it is read. -/
structure Reading where
  /-- The characters from the next token on. -/
  rest : List Char
  /-- The flags set for the whole pattern. -/
  flags : Flags
  names : List (String × Nat) := []
  /-- The widths of the groups so far, those that are still open having none. -/
  groups : List (Option Width) := []
  /-- The first group that a condition on what stands before may not refer to. -/
  barred : Option Nat := none
  /-- The groups that conditions ask for, with places. -/
  asked : List (Nat × Nat) := []

/-- Reading a part of a pattern. -/
abbrev Reader := StateT Reading (Except PatternError)

namespace Reader

/-! ## Tokens -/

/-- Fail at a place so many characters before the next token. -/
def failBack {α : Type} (fault : PatternFault) (back : Nat) : Reader α := do
  throw (.malformed fault (some ((← get).rest.length + back)))

/-- Fail at the next token. -/
def fail {α : Type} (fault : PatternFault) : Reader α := failBack fault 0

/-- Fail at a place with so many characters left. -/
def failAt {α : Type} (fault : PatternFault) (left : Nat) : Reader α :=
  throw (.malformed fault (some left))

/-- The number of characters left. -/
def left : Reader Nat := return (← get).rest.length

/-- The characters of the first token. -/
def tokenOf : List Char → List Char
  | '\\' :: c :: _ => ['\\', c]
  | c :: _ => [c]
  | [] => []

/-- The characters of the next token, none at the end. -/
def peek : Reader (List Char) := return tokenOf (← get).rest

/-- Go on to these characters, of which a backslash is not the last. -/
def goOn (rest : List Char) : Reader Unit := do
  if rest = ['\\'] then failAt .escapeAtEnd 1
  modify fun r => { r with rest }

/-- The next token, taken. -/
def take : Reader (List Char) := do
  let rest := (← get).rest
  let token := tokenOf rest
  goOn (rest.drop token.length)
  return token

/-- Take the next token if it is this character. -/
def accept (c : Char) : Reader Bool := do
  if (← peek) = [c] then
    let _ ← take
    return true
  return false

/-- Take up to so many characters of a class. -/
def takeWhile (p : Char → Bool) : (most : Nat) → Reader (List Char)
  | 0 => return []
  | n + 1 => do
    match ← peek with
    | [c] =>
      if p c then
        let _ ← take
        return c :: (← takeWhile p n)
      return []
    | _ => return []

/-- Take all up to a character, which is taken too. -/
def takeUntil (terminator : Char) (what : String) : Reader (List Char) := do
  loop [] ((← left) + 1)
where
  /-- Take the rest, after what has been taken. -/
  loop (taken : List Char) : (budget : Nat) → Reader (List Char)
    | 0 => return taken
    | n + 1 => do
      let token ← take
      if token = [] then
        if taken = [] then fail (.missing what)
        failBack (.missing s!"{terminator}, unterminated name") taken.length
      else if token = [terminator] then
        if taken = [] then failBack (.missing what) 1
        return taken
      else loop (taken ++ token) n

/-! ## Escapes -/

/-- What an escape stands for. -/
inductive Escape where
  | char (code : Nat)
  | category (kind : Category) (negated : Bool)
  | place (p : Place)
  | group (index : Nat)

/-- Whether a character is an octal digit. -/
def isOctal (c : Char) : Bool := '0' ≤ c && c ≤ '7'

/-- Whether a character is a hexadecimal digit. -/
def isHex (c : Char) : Bool := (Text.hexValue? c).isSome

/-- The number with these digits of a base. -/
def number (base : Nat) (ds : List Char) : Nat :=
  ds.foldl (fun n c => base * n + (Text.hexValue? c).getD 0) 0

/-- Characters with a letter after a backslash. -/
def controlOf? (c : Char) : Option Nat :=
  [('a', 7), ('b', 8), ('f', 12), ('n', 10), ('r', 13), ('t', 9), ('v', 11), ('\\', 92)].lookup c

/-- Classes with a letter after a backslash. -/
def categoryOf? (c : Char) : Option (Category × Bool) :=
  [('d', .digit, false), ('D', .digit, true), ('s', .blank, false), ('S', .blank, true),
    ('w', .word, false), ('W', .word, true)].lookup c

/-- Conditions with a letter after a backslash. -/
def placeOf? (asciiOnly : Bool) (c : Char) : Option Place :=
  [('A', .start), ('Z', .finish), ('b', .wordEdge false asciiOnly),
    ('B', .wordEdge true asciiOnly)].lookup c

/-- The text of an escape. -/
def escapeText (c : Char) (more : List Char) : String := String.ofList ('\\' :: c :: more)

/-- The character of so many hexadecimal digits. -/
def hexEscape (c : Char) (width : Nat) : Reader Nat := do
  let ds ← takeWhile isHex width
  if ds.length < width then failBack (.incompleteEscape (escapeText c ds)) (ds.length + 2)
  let code := number 16 ds
  if code > 0x10FFFF then failBack (.badEscape (escapeText c ds)) (ds.length + 2)
  return code

/-- The character of a name in braces. -/
def namedEscape : Reader Nat := do
  if !(← accept '{') then fail (.missing "\x7b")
  let name := String.ofList (← takeUntil '}' "character name")
  match Text.named? name with
  | some c => return c.toNat
  | none => failBack (.unknownCharacter name) (name.length + 4)

/-- An escape that is written alike inside and outside of sets. -/
def commonEscape (c : Char) : Reader Escape := do
  if c = 'x' then return .char (← hexEscape c 2)
  else if c = 'u' then return .char (← hexEscape c 4)
  else if c = 'U' then return .char (← hexEscape c 8)
  else if c = 'N' then return .char (← namedEscape)
  else if c.isAlpha then failBack (.badEscape (escapeText c [])) 2
  else return .char c.toNat

/-- An escape of octal digits, of which there may be no more than three. -/
def octalEscape (c : Char) (more : List Char) : Reader Escape := do
  let code := number 8 (c :: more)
  if code > 0o377 then failBack (.largeOctal (escapeText c more)) (more.length + 2)
  return .char code

/-- An escape in a set, after it has been taken. -/
def setEscape (c : Char) : Reader Escape := do
  match controlOf? c, categoryOf? c with
  | some code, _ => return .char code
  | none, some (kind, negated) => return .category kind negated
  | none, none =>
    if isOctal c then octalEscape c (← takeWhile isOctal 2)
    else if c.isDigit then failBack (.badEscape (escapeText c [])) 2
    else commonEscape c

/-- Refuse references to groups that are not complete, if these are barred. -/
def checkBarred (group : Nat) : Reader Unit := do
  let r ← get
  match r.barred with
  | none => return
  | some barred =>
    if (r.groups[group - 1]?.bind id).isNone then fail .openGroup
    if barred ≤ group then fail .groupOfSameLookbehind

/-- A reference to a group by number, of which the text of the escape is so long. -/
def groupEscape (group length : Nat) : Reader Escape := do
  let r ← get
  if r.groups.length < group then failBack (.invalidReference group) (length - 1)
  if (r.groups[group - 1]?.bind id).isNone then failBack .openGroup length
  checkBarred group
  return .group group

/-- An escape that starts with a digit other than zero. -/
def digitEscape (c : Char) : Reader Escape := do
  match ← takeWhile Char.isDigit 1 with
  | [d] =>
    if isOctal c && isOctal d then
      match ← takeWhile isOctal 1 with
      | [e] => octalEscape c [d, e]
      | _ => groupEscape (number 10 [c, d]) 3
    else groupEscape (number 10 [c, d]) 3
  | _ => groupEscape (number 10 [c]) 2

/-- An escape outside of sets, after it has been taken. -/
def freeEscape (asciiOnly : Bool) (c : Char) : Reader Escape := do
  match placeOf? asciiOnly c, categoryOf? c, controlOf? c with
  | some p, _, _ => return .place p
  | none, some (kind, negated), _ => return .category kind negated
  | none, none, some code => return .char code
  | none, none, none =>
    if c = '0' then return .char (number 8 (← takeWhile isOctal 2))
    else if c.isDigit then digitEscape c
    else commonEscape c

/-! ## Sets -/

/-- One end of a range, or an item that is no character. -/
def setItem (asciiOnly : Bool) : List Char → Reader (Nat ⊕ SetItem)
  | ['\\', c] => do
    match ← setEscape c with
    | .category kind negated => return .inr (.category kind negated asciiOnly)
    | .char code => return .inl code
    | _ => return .inl c.toNat
  | c :: _ => return .inl c.toNat
  | [] => return .inl 0

/-- A character as an item. -/
def asItem : Nat ⊕ SetItem → SetItem
  | .inl code => .range code code
  | .inr item => item

/-- The items of a set, to its closing bracket. The set starts with so many
    characters left. -/
def setItems (asciiOnly : Bool) (start : Nat) : (budget : Nat) → (first : Bool) →
    Reader (List SetItem)
  | 0, _ => return []
  | n + 1, first => do
    let this ← take
    if this = [] then failAt .unterminatedSet start
    else if this = [']'] ∧ ¬first then return []
    else
      let low ← setItem asciiOnly this
      if ← accept '-' then
        let that ← take
        if that = [] then failAt .unterminatedSet start
        else if that = [']'] then return [asItem low, .range 0x2D 0x2D]
        else
          let high ← setItem asciiOnly that
          let bad := PatternFault.badRange (String.ofList (this ++ '-' :: that))
          match low, high with
          | .inl low, .inl high =>
            if high < low then failBack bad (this.length + 1 + that.length)
            return .range low high :: (← setItems asciiOnly start n false)
          | _, _ => failBack bad (this.length + 1 + that.length)
      else return asItem low :: (← setItems asciiOnly start n false)

/-- A set, after its opening bracket. -/
def charSet (flags : Flags) : Reader CharTest := do
  let start := (← left) + 1
  let negated ← accept '^'
  let items ← setItems flags.ascii start start true
  return ⟨items, negated, flags.casing⟩

/-! ## Repetitions -/

/-- The parts of a sequence: whether they may be repeated. -/
inductive PartKind where
  | plain
  | place
  | repeated
  deriving DecidableEq, Repr

/-- A part of a sequence. -/
structure Part where
  node : Node
  kind : PartKind := .plain

/-- The least number of repetitions that is too large. -/
def maxRepeat : Nat := 4294967295

/-- A number of repetitions. -/
def repeatNumber (ds : List Char) : Reader Nat := do
  if Text.maxDigits < ds.length then throw (.tooLong ds.length)
  let n := number 10 ds
  if maxRepeat ≤ n then throw .tooManyRepetitions
  return n

/-- The bounds in braces, after the opening one, if they are complete. -/
def braces : Reader (Option (Nat × Option Nat)) := do
  let before ← get
  let low ← takeWhile Char.isDigit before.rest.length
  let comma ← accept ','
  let high ← if comma then takeWhile Char.isDigit before.rest.length else pure low
  if !(← accept '}') then
    set before
    return none
  let least ← if low = [] then pure 0 else repeatNumber low
  if high = [] then return some (least, none)
  let most ← repeatNumber high
  if most < least then failAt .reversedBounds before.rest.length
  return some (least, some most)

/-- The mark that tells how often a repetition is tried. -/
def greedMark : Reader Greed := do
  if ← accept '?' then return .least
  if ← accept '+' then return .possessive
  return .most

/-- Repeat the last part, the repetition having been told since so many characters
    were left. The parts come last first. -/
def repeatLast (start least : Nat) (most : Option Nat) : List Part → Reader (List Part)
  | [] => failAt .nothingToRepeat start
  | ⟨node, kind⟩ :: parts => do
    if kind = .place then failAt .nothingToRepeat start
    if kind = .repeated then failAt .multipleRepeat start
    return ⟨.loop (← greedMark) least most node, .repeated⟩ :: parts

/-- The repetition that a character starts, which has been taken, of the last part. -/
def repetition (flags : Flags) (c : Char) (parts : List Part) : Reader (List Part) := do
  let start := (← left) + 1
  if c = '?' then repeatLast start 0 (some 1) parts
  else if c = '*' then repeatLast start 0 none parts
  else if c = '+' then repeatLast start 1 none parts
  else
    let brace : Part := { node := .one ⟨[.range c.toNat c.toNat], false, flags.casing⟩ }
    if (← peek) = ['}'] then return brace :: parts
    match ← braces with
    | none => return brace :: parts
    | some (least, most) => repeatLast start least most parts

/-! ## Names and flags -/

/-- A name up to a terminator. -/
def groupName (terminator : Char) : Reader String := do
  let name ← takeUntil terminator "group name"
  if !Text.isIdentifier name then failBack (.badGroupName (String.ofList name)) (name.length + 1)
  return String.ofList name

/-- The number of a group by its name, which has just been taken with its terminator. -/
def groupOf (name : String) : Reader Nat := do
  match (← get).names.lookup name with
  | some group => return group
  | none => failBack (.unknownGroup name) (name.length + 1)

/-- The group that a condition asks for. -/
def askedGroup : Reader Nat := do
  let name ← takeUntil ')' "group name"
  let text := String.ofList name
  if Text.isIdentifier name then groupOf text
  else
    match Text.readInteger text with
    | .ok (.ofNat group) =>
      if group = 0 then failBack .badGroupNumber (name.length + 1)
      if 1073741823 ≤ group then failBack (.invalidReference group) (name.length + 1)
      let place := (← left) + name.length + 1
      modify fun r => if (r.asked.lookup group).isSome then r
        else { r with asked := r.asked ++ [(group, place)] }
      return group
    | _ => failBack (.badGroupName text) (name.length + 1)

/-- The fault of a token where a flag should be. -/
def flagFault (token : List Char) (what : String) : Reader Unit :=
  match token with
  | [c] =>
    if Text.isLetter c then failBack .unknownFlag 1 else failBack (.missing what) 1
  | [] => fail (.missing what)
  | _ => failBack (.missing what) token.length

/-- The flags that start with this token, up to one of the terminators, which is
    given too. -/
def addedFlags (added : Flags) (token : List Char) : (budget : Nat) → Reader (Flags × Char)
  | 0 => return (added, ')')
  | n + 1 => do
    match token with
    | ['L'] => fail .localeFlag
    | [c] =>
      match Flags.ofLetter? c with
      | none =>
        flagFault token "-, : or )"
        return (added, ')')
      | some flag =>
        let added := added.or flag
        if flag.setsAlphabet ∧ added.ascii ∧ added.unicode then fail .incompatibleFlags
        let next ← take
        match next with
        | [d] => if d = ')' ∨ d = '-' ∨ d = ':' then return (added, d) else addedFlags added next n
        | _ => addedFlags added next n
    | _ =>
      flagFault token "-, : or )"
      return (added, ')')

/-- The flags that are taken away, up to the colon. The token is the next after the
    ones before; `what` is missing if it is no flag. -/
def removedFlags (removed : Flags) (what : String) (token : List Char) : (budget : Nat) →
    Reader Flags
  | 0 => return removed
  | n + 1 => do
    match token with
    | [c] =>
      if c = 'L' then fail .typeFlagOff
      match Flags.ofLetter? c with
      | none =>
        flagFault token what
        return removed
      | some flag =>
        if flag.setsAlphabet then fail .typeFlagOff
        let removed := removed.or flag
        let next ← take
        if next = [':'] then return removed
        removedFlags removed ":" next n
    | _ =>
      flagFault token what
      return removed

/-- The flags of a part, from their first token on: those that are added and taken
    away, or nothing if they are set for the whole pattern. -/
def flagGroup (token : List Char) : Reader (Option (Flags × Flags)) := do
  let budget := (← left) + 2
  let (added, terminator) ← if token = ['-'] then pure ({}, '-') else addedFlags {} token budget
  if terminator = ')' then
    modify fun r => { r with flags := r.flags.or added }
    return none
  if added.template then failBack .globalFlagOn 1
  let removed ← if terminator = '-' then removedFlags {} "flag" (← take) budget else pure {}
  if removed.template then failBack .globalFlagOff 1
  if (added.ignoreCase && removed.ignoreCase) || (added.multiLine && removed.multiLine) ||
      (added.dotAll && removed.dotAll) || (added.verbose && removed.verbose) then
    failBack .flagOnAndOff 1
  return some (added, removed)

/-! ## Groups -/

/-- The widths of complete groups. -/
def widthOf (groups : List (Option Width)) (index : Nat) : Width :=
  (groups[index - 1]?.bind id).getD (0, 0)

/-- Open a group. -/
def openGroup (name : Option String) : Reader Nat := do
  let group := (← get).groups.length + 1
  modify fun r => { r with groups := r.groups ++ [none] }
  match name with
  | none => return group
  | some name =>
    match (← get).names.lookup name with
    | some was => failBack (.redefinedGroup name group was) (name.length + 1)
    | none =>
      modify fun r => { r with names := (name, group) :: r.names }
      return group

/-- Complete a group. -/
def closeGroup (group : Nat) (body : Node) : Reader Unit :=
  modify fun r =>
    { r with groups := r.groups.set (group - 1) (some (body.width (widthOf r.groups))) }

/-- The closing parenthesis of a part that starts with so many characters left. -/
def closing (start : Nat) : Reader Unit := do
  if !(← accept ')') then failAt (.missing "), unterminated subpattern") start

/-- Skip a comment, to its closing parenthesis. -/
def skipComment (start : Nat) : (budget : Nat) → Reader Unit
  | 0 => return
  | n + 1 => do
    if (← peek) = [] then failAt (.missing "), unterminated comment") start
    if (← take) ≠ [')'] then skipComment start n

/-- Skip the rest of a line. -/
def skipLine : (budget : Nat) → Reader Unit
  | 0 => return
  | n + 1 => do
    let token ← take
    if token ≠ [] ∧ token ≠ ['\n'] then skipLine n

/-- Parts in sequence, given last first. -/
def sequence (parts : List Part) : Node :=
  match parts with
  | [] => .empty
  | last :: before => before.foldl (fun node part => .seq part.node node) last.node

/-- A named reference to a group, after `(?P=`. -/
def namedReference (flags : Flags) : Reader Part := do
  let name ← groupName ')'
  let group ← groupOf name
  if ((← get).groups[group - 1]?.bind id).isNone then failBack .openGroup (name.length + 1)
  checkBarred group
  return { node := .again flags.casing group }

/-- The test of a character, or what else an escape stands for. -/
def escapePart (flags : Flags) (c : Char) : Reader Part := do
  let test := fun item : SetItem => ({ node := .one ⟨[item], false, flags.casing⟩ } : Part)
  match ← freeEscape flags.ascii c with
  | .char code => return test (.range code code)
  | .category kind negated => return test (.category kind negated flags.ascii)
  | .place p => return { node := .place p, kind := .place }
  | .group index => return { node := .again flags.casing index }

/-- A character that stands for itself, or for one of the simple parts. -/
def charPart (flags : Flags) (c : Char) : Part :=
  if c = '.' then
    { node := .one ⟨if flags.dotAll then [] else [.range 10 10], true, .exact⟩ }
  else if c = '^' then
    { node := .place (if flags.multiLine then .lineStart else .start), kind := .place }
  else if c = '$' then
    { node := .place (if flags.multiLine then .lineFinish else .lastFinish), kind := .place }
  else { node := .one ⟨[.range c.toNat c.toNat], false, flags.casing⟩ }

mutual

/-- Alternatives, to the end or a closing parenthesis. `outermost` tells whether
    these are those of the whole pattern, and `first` whether flags may be set for
    the whole pattern. -/
def alternatives (outermost first : Bool) : (budget : Nat) → Flags → Reader Node
  | 0, _ => return .empty
  | n + 1, flags => do
    let node ← sequenceFrom first n flags []
    if ← accept '|' then
      let flags ← if outermost then pure (← get).flags else pure flags
      return .alt node (← alternatives outermost false n flags)
    return node
termination_by structural budget => budget

/-- A sequence of parts, of which these have been read, last first. `first` tells
    whether flags may be set for the whole pattern. -/
def sequenceFrom (first : Bool) : (budget : Nat) → Flags → List Part → Reader Node
  | 0, _, parts => return sequence parts
  | n + 1, flags, parts => do
    let token ← peek
    if token = [] ∨ token = ['|'] ∨ token = [')'] then return sequence parts
    let _ ← take
    match token with
    | ['\\', c] => sequenceFrom first n flags ((← escapePart flags c) :: parts)
    | [c] =>
      if flags.verbose && (c == ' ' || (0x09 ≤ c.toNat && c.toNat ≤ 0x0D)) then
        sequenceFrom first n flags parts
      else if flags.verbose && c == '#' then
        skipLine ((← left) + 1)
        sequenceFrom first n flags parts
      else if c = '[' then
        sequenceFrom first n flags ({ node := .one (← charSet flags) } :: parts)
      else if c = '?' ∨ c = '*' ∨ c = '+' ∨ c = '{' then
        sequenceFrom first n flags (← repetition flags c parts)
      else if c = '(' then
        let start := (← left) + 1
        if ← accept '?' then extension first n flags start parts
        else sequenceFrom first n flags ((← capture n flags start none) :: parts)
      else sequenceFrom first n flags (charPart flags c :: parts)
    | _ => return sequence parts
termination_by structural budget => budget

/-- A group, after its opening, that starts with so many characters left. -/
def capture : (budget : Nat) → Flags → (start : Nat) → (name : Option String) → Reader Part
  | 0, _, _, _ => return { node := .empty }
  | n + 1, flags, start, name => do
    let group ← openGroup name
    let body ← alternatives false false n flags
    closing start
    closeGroup group body
    return { node := .group group body }
termination_by structural budget => budget

/-- What starts with `(?`, which has been taken, and the sequence after it. -/
def extension (first : Bool) : (budget : Nat) → Flags → (start : Nat) → List Part → Reader Node
  | 0, _, _, parts => return sequence parts
  | n + 1, flags, start, parts => do
    let token ← take
    match token with
    | [] => fail .unexpectedEnd
    | ['P'] =>
      if ← accept '<' then
        let name ← groupName '>'
        sequenceFrom first n flags ((← capture n flags start (some name)) :: parts)
      else if ← accept '=' then
        sequenceFrom first n flags ((← namedReference flags) :: parts)
      else
        let next ← take
        if next = [] then fail .unexpectedEnd
        failBack (.unknownExtension (String.ofList ('P' :: next))) (next.length + 2)
    | [':'] => sequenceFrom first n flags ((← scope n flags start) :: parts)
    | ['#'] =>
      skipComment start ((← left) + 1)
      sequenceFrom first n flags parts
    | ['='] => sequenceFrom first n flags ((← condition n flags start false false) :: parts)
    | ['!'] => sequenceFrom first n flags ((← condition n flags start false true) :: parts)
    | ['<'] =>
      let next ← take
      if next = [] then fail .unexpectedEnd
      if next = ['='] then
        sequenceFrom first n flags ((← condition n flags start true false) :: parts)
      else if next = ['!'] then
        sequenceFrom first n flags ((← condition n flags start true true) :: parts)
      else failBack (.unknownExtension (String.ofList ('<' :: next))) (next.length + 2)
    | ['('] => sequenceFrom first n flags ((← conditional n flags start) :: parts)
    | ['>'] =>
      let part ← scope n flags start
      sequenceFrom first n flags ({ node := .atomic part.node } :: parts)
    | _ =>
      let isFlag := match token with
        | [c] => c == 'L' || c == '-' || (Flags.ofLetter? c).isSome
        | _ => false
      if !isFlag then failBack (.unknownExtension (String.ofList token)) (token.length + 1)
      match ← flagGroup token with
      | none =>
        if !first ∨ parts ≠ [] then failAt .lateFlags start
        sequenceFrom first n (← get).flags parts
      | some (added, removed) =>
        sequenceFrom first n flags ((← scope n (flags.adjusted added removed) start) :: parts)
termination_by structural budget => budget

/-- A part in parentheses that is no group. -/
def scope : (budget : Nat) → Flags → (start : Nat) → Reader Part
  | 0, _, _ => return { node := .empty }
  | n + 1, flags, start => do
    let body ← alternatives false false n flags
    closing start
    return { node := body }
termination_by structural budget => budget

/-- A condition on what follows or stands before. -/
def condition : (budget : Nat) → Flags → (start : Nat) → (before negated : Bool) → Reader Part
  | 0, _, _, _, _ => return { node := .empty }
  | n + 1, flags, start, before, negated => do
    let outer := (← get).barred
    if before ∧ outer.isNone then
      modify fun r => { r with barred := some (r.groups.length + 1) }
    let body ← alternatives false false n flags
    if before then modify fun r => { r with barred := outer }
    closing start
    let groups := (← get).groups
    let width := if before then some (body.width (widthOf groups)) else none
    return { node := .look width negated body }
termination_by structural budget => budget

/-- One of two parts, after `(?(`. -/
def conditional : (budget : Nat) → Flags → (start : Nat) → Reader Part
  | 0, _, _ => return { node := .empty }
  | n + 1, flags, start => do
    let group ← askedGroup
    checkBarred group
    let yes ← sequenceFrom false n flags []
    let no ← if ← accept '|' then
        let no ← sequenceFrom false n flags []
        if (← peek) = ['|'] then fail .manyBranches
        pure no
      else pure .empty
    closing start
    return { node := .choice group yes no }
termination_by structural budget => budget
end

/-- The whole pattern. -/
def whole (budget : Nat) : Reader Node := do
  let rest := (← get).rest
  goOn rest
  let node ← alternatives true true budget (← get).flags
  let r ← get
  if r.flags.ascii ∧ r.flags.unicode then throw .conflictingAlphabets
  if r.rest ≠ [] then fail .unbalanced
  match r.asked.find? fun (group, _) => r.groups.length < group with
  | some (group, place) => failAt (.invalidReference group) place
  | none => return node

end Reader

/-- Whether a pattern that has been read can be matched: conditions on what stands
    before have a fixed width, and there are no repetitions where none is supported. -/
def Node.check (template : Bool) : Node → Except PatternFault Unit
  | seq a b | alt a b | choice _ a b => do a.check template; b.check template
  | loop greed _ _ body =>
    if template then .error <| .unsupported <| match greed with
      | .most => "MAX_REPEAT"
      | .least => "MIN_REPEAT"
      | .possessive => "POSSESSIVE_REPEAT"
    else body.check template
  | group _ body | atomic body | look none _ body => body.check template
  | look (some (low, high)) _ body =>
    if 4294967295 < low then .error .farLookbehind
    else if low ≠ high then .error .variableLookbehind
    else body.check template
  | empty | one _ | place _ | again .. => .ok ()

/-- Read a pattern, with flags for the whole. -/
def readNode (flags : Flags) (pattern : List Char) : Except PatternError Node := do
  let (node, r) ← (Reader.whole (4 * pattern.length + 8)).run { rest := pattern, flags }
  match node.check r.flags.template with
  | .ok () => return node
  | .error fault => throw (.malformed fault none)

end JavaBuild.Pattern
