import Highlight.Text.Quoted
import Highlight.Text.Decimal

namespace Highlight.Regex

inductive Fault
  | danglingEscape
  | incompleteEscape (escape : String)
  | badEscape (escape : String)
  | octalTooLarge (escape : String)
  | unknownCharacter (name : String)
  | missing (what : String)
  | unterminatedName (close : Char)
  | badGroupName (name : String)
  | badGroupNumber
  | unknownGroup (name : String)
  | invalidReference (index : Nat)
  | openGroup
  | lookbehindGroup
  | redefinedGroup (name : String) (index previous : Nat)
  | unterminatedSet
  | badRange (lo hi : String)
  | repeatOrder
  | nothingToRepeat
  | multipleRepeat
  | unexpectedEnd
  | unknownExtension (text : String)
  | unterminatedComment
  | unterminatedGroup
  | tooManyBranches
  | unknownFlag
  | flagsNotAtStart
  | localeFlag
  | alphabetFlags
  | alphabetFlagOff
  | globalFlagOn
  | globalFlagOff
  | flagOnAndOff
  | unbalanced
  | variableLookbehind
  | templateRepeat (greed : String)
  deriving DecidableEq, Repr

namespace Fault

open Text (quoted)

def message : Fault → String
  | danglingEscape => "bad escape (end of pattern)"
  | incompleteEscape e => "incomplete escape " ++ e
  | badEscape e => "bad escape " ++ e
  | octalTooLarge e => "octal escape value " ++ e ++ " outside of range 0-0o377"
  | unknownCharacter n => "undefined character name " ++ quoted n
  | missing what => "missing " ++ what
  | unterminatedName c => "missing " ++ c.toString ++ ", unterminated name"
  | badGroupName n => "bad character in group name " ++ quoted n
  | badGroupNumber => "bad group number"
  | unknownGroup n => "unknown group name " ++ quoted n
  | invalidReference i => "invalid group reference " ++ toString i
  | openGroup => "cannot refer to an open group"
  | lookbehindGroup => "cannot refer to group defined in the same lookbehind subpattern"
  | redefinedGroup n i p =>
    "redefinition of group name " ++ quoted n ++ " as group " ++ toString i ++
      "; was group " ++ toString p
  | unterminatedSet => "unterminated character set"
  | badRange lo hi => "bad character range " ++ lo ++ "-" ++ hi
  | repeatOrder => "min repeat greater than max repeat"
  | nothingToRepeat => "nothing to repeat"
  | multipleRepeat => "multiple repeat"
  | unexpectedEnd => "unexpected end of pattern"
  | unknownExtension t => "unknown extension " ++ t
  | unterminatedComment => "missing ), unterminated comment"
  | unterminatedGroup => "missing ), unterminated subpattern"
  | tooManyBranches => "conditional backref with more than two branches"
  | unknownFlag => "unknown flag"
  | flagsNotAtStart => "global flags not at the start of the expression"
  | localeFlag => "bad inline flags: cannot use 'L' flag with a str pattern"
  | alphabetFlags => "bad inline flags: flags 'a', 'u' and 'L' are incompatible"
  | alphabetFlagOff => "bad inline flags: cannot turn off flags 'a', 'u' and 'L'"
  | globalFlagOn => "bad inline flags: cannot turn on global flag"
  | globalFlagOff => "bad inline flags: cannot turn off global flag"
  | flagOnAndOff => "bad inline flags: flag turned on and off"
  | unbalanced => "unbalanced parenthesis"
  | variableLookbehind => "look-behind requires fixed-width pattern"
  | templateRepeat g => "internal: unsupported template operator " ++ g

end Fault

-- Why a pattern is refused. A fault has a place in the pattern unless the whole is at fault.
inductive Error
  | fault (cause : Fault) (position : Option Nat)
  | repeatTooLarge
  | codeTooLarge
  | lookbehindTooLong
  | tooManyDigits (count : Nat)
  | alphabetClash
  deriving DecidableEq, Repr

def lineColumn (pattern : List Char) (position : Nat) : Nat × Nat :=
  let before := pattern.take position
  (before.count '\n' + 1, (before.reverse.takeWhile (· ≠ '\n')).length + 1)

namespace Error

def message (pattern : String) : Error → String
  | fault cause none => cause.message
  | fault cause (some p) =>
    let chars := pattern.toList
    let placed := cause.message ++ " at position " ++ toString p
    if chars.contains '\n' then
      let (line, column) := lineColumn chars p
      placed ++ " (line " ++ toString line ++ ", column " ++ toString column ++ ")"
    else placed
  | repeatTooLarge => "the repetition number is too large"
  | codeTooLarge => "Python int too large to convert to C int"
  | lookbehindTooLong => "invalid SRE code"
  | tooManyDigits n => Text.Decimal.tooManyDigits n
  | alphabetClash => "ASCII and UNICODE flags are incompatible"

end Error

end Highlight.Regex
