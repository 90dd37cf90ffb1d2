import JavaBuild.Text.Quoted

/-!
# Errors of patterns

A text that is no pattern is told by its first fault and mostly where that is. A
place is told by the number of characters left from there.
-/

namespace JavaBuild.Pattern

/-- What is wrong with a pattern. -/
inductive PatternFault where
  | unbalanced
  | unterminatedSet
  | nothingToRepeat
  | multipleRepeat
  | reversedBounds
  | escapeAtEnd
  | badEscape (text : String)
  | incompleteEscape (text : String)
  | largeOctal (text : String)
  | missing (what : String)
  | unknownCharacter (name : String)
  | badRange (text : String)
  | badGroupName (name : String)
  | unknownGroup (name : String)
  | openGroup
  | groupOfSameLookbehind
  | invalidReference (group : Nat)
  | unknownExtension (text : String)
  | unexpectedEnd
  | redefinedGroup (name : String) (group was : Nat)
  | badGroupNumber
  | manyBranches
  | lateFlags
  | localeFlag
  | incompatibleFlags
  | unknownFlag
  | globalFlagOn
  | typeFlagOff
  | globalFlagOff
  | flagOnAndOff
  | variableLookbehind
  | farLookbehind
  /-- A repetition where none is supported. -/
  | unsupported (repetition : String)
  deriving DecidableEq, Repr

/-- What is wrong, in words. -/
def PatternFault.text : PatternFault → String
  | unbalanced => "unbalanced parenthesis"
  | unterminatedSet => "unterminated character set"
  | nothingToRepeat => "nothing to repeat"
  | multipleRepeat => "multiple repeat"
  | reversedBounds => "min repeat greater than max repeat"
  | escapeAtEnd => "bad escape (end of pattern)"
  | badEscape text => "bad escape " ++ text
  | incompleteEscape text => "incomplete escape " ++ text
  | largeOctal text => s!"octal escape value {text} outside of range 0-0o377"
  | missing what => "missing " ++ what
  | unknownCharacter name => "undefined character name " ++ Text.quoted name
  | badRange text => "bad character range " ++ text
  | badGroupName name => "bad character in group name " ++ Text.quoted name
  | unknownGroup name => "unknown group name " ++ Text.quoted name
  | openGroup => "cannot refer to an open group"
  | groupOfSameLookbehind => "cannot refer to group defined in the same lookbehind subpattern"
  | invalidReference group => s!"invalid group reference {group}"
  | unknownExtension text => "unknown extension ?" ++ text
  | unexpectedEnd => "unexpected end of pattern"
  | redefinedGroup name group was =>
    s!"redefinition of group name {Text.quoted name} as group {group}; was group {was}"
  | badGroupNumber => "bad group number"
  | manyBranches => "conditional backref with more than two branches"
  | lateFlags => "global flags not at the start of the expression"
  | localeFlag => "bad inline flags: cannot use 'L' flag with a str pattern"
  | incompatibleFlags => "bad inline flags: flags 'a', 'u' and 'L' are incompatible"
  | unknownFlag => "unknown flag"
  | globalFlagOn => "bad inline flags: cannot turn on global flag"
  | typeFlagOff => "bad inline flags: cannot turn off flags 'a', 'u' and 'L'"
  | globalFlagOff => "bad inline flags: cannot turn off global flag"
  | flagOnAndOff => "bad inline flags: flag turned on and off"
  | variableLookbehind => "look-behind requires fixed-width pattern"
  | farLookbehind => "looks too much behind"
  | unsupported repetition => "internal: unsupported template operator " ++ repetition

/-- Why a text is no pattern. -/
inductive PatternError where
  /-- There is a fault, mostly with a place. -/
  | malformed (fault : PatternFault) (left : Option Nat)
  /-- A number of repetitions is too large. -/
  | tooManyRepetitions
  /-- A number of repetitions has this many digits, more than are read. -/
  | tooLong (digits : Nat)
  /-- Letters are both those of ASCII and those of Unicode. -/
  | conflictingAlphabets
  deriving DecidableEq, Repr

/-- The message for a fault in a pattern. The line is told only if there are several. -/
def faultMessage (pattern : List Char) (fault : PatternFault) : Option Nat → String
  | none => fault.text
  | some left =>
    let position := pattern.length - left
    let before := pattern.take position
    let line := (before.filter (· == '\n')).length + 1
    let column := (before.reverse.takeWhile (· != '\n')).length + 1
    let lines := if pattern.contains '\n' then s!" (line {line}, column {column})" else ""
    s!"{fault.text} at position {position}" ++ lines

end JavaBuild.Pattern
