import TreeSieve.Text.Quoted

/-!
# Regex — Problem

What can be wrong with a pattern.  Most problems are mistakes in the pattern, with the place at
which they are noticed; a few patterns are well formed and ask for numbers beyond the limits, for
two alphabets at once, or for more groups in one another than there is room for.  And a few can be
read, and the search for them fails.
-/

namespace TreeSieve.Regex

/-- A mistake in a pattern. -/
inductive Problem where
  | danglingEscape
  | incompleteEscape (escape : Text)
  | badEscape (escape : Text)
  | missingBrace
  | unknownCharName (name : Text)
  | missingName (what : Text)
  | unterminatedName (terminator : Char)
  | octalTooLarge (escape : Text)
  | openGroup
  | openedInBehind
  | invalidGroup (n : Nat)
  | unterminatedSet
  | badRange (first last : Text)
  | leastAboveMost
  | nothingToRepeat
  | multipleRepeat
  | unexpectedEnd
  | badGroupName (name : Text)
  | unknownGroupName (name : Text)
  | redefinedGroup (name : Text) (index earlier : Nat)
  | unknownExtension (text : Text)
  | unterminatedComment
  | unterminatedGroup
  | badGroupNumber
  | tooManyBranches
  | lateGlobalFlags
  | localeFlag
  | alphabetsClash
  | missingFlagEnd
  | unknownFlag
  | turnOnGlobal
  | missingFlag
  | turnOffAlphabet
  | missingColon
  | turnOffGlobal
  | onAndOff
  | unbalanced
  | variableBehind
  | templateRounds
  | tooDeep
  deriving DecidableEq, Repr

/-- A mistake and the place where it is noticed, for mistakes that have one. -/
structure Mistake where
  problem : Problem
  place? : Option Nat
  deriving DecidableEq, Repr

/-- Why a pattern gives no expression, or a search for it no answer. -/
inductive Failure where
  | mistake (m : Mistake)
  /-- A number of rounds beyond the limit. -/
  | tooManyRounds
  /-- A number of rounds with more digits than can be read. -/
  | tooManyDigits (count : Nat)
  /-- Two alphabets for the whole pattern. -/
  | twoAlphabets
  /-- More groups in one another than there is room for. -/
  | noRoom
  /-- A match in which the edges of a group have crossed. -/
  | crossed
  deriving DecidableEq, Repr

namespace Problem

/-- The wording of a problem. -/
def message : Problem → Text
  | danglingEscape => "bad escape (end of pattern)".toList
  | incompleteEscape e => "incomplete escape ".toList ++ e
  | badEscape e => "bad escape ".toList ++ e
  | missingBrace => "missing \x7b".toList
  | unknownCharName n => "undefined character name ".toList ++ Text.quoted n
  | missingName w => "missing ".toList ++ w
  | unterminatedName t => "missing ".toList ++ t :: ", unterminated name".toList
  | octalTooLarge e =>
    "octal escape value ".toList ++ e ++ " outside of range 0-0o377".toList
  | openGroup => "cannot refer to an open group".toList
  | openedInBehind => "cannot refer to group defined in the same lookbehind subpattern".toList
  | invalidGroup n => "invalid group reference ".toList ++ Text.ofNat n
  | unterminatedSet => "unterminated character set".toList
  | badRange a b => "bad character range ".toList ++ a ++ '-' :: b
  | leastAboveMost => "min repeat greater than max repeat".toList
  | nothingToRepeat => "nothing to repeat".toList
  | multipleRepeat => "multiple repeat".toList
  | unexpectedEnd => "unexpected end of pattern".toList
  | badGroupName n => "bad character in group name ".toList ++ Text.quoted n
  | unknownGroupName n => "unknown group name ".toList ++ Text.quoted n
  | redefinedGroup n i e =>
    "redefinition of group name ".toList ++ Text.quoted n ++ " as group ".toList ++ Text.ofNat i
      ++ "; was group ".toList ++ Text.ofNat e
  | unknownExtension t => "unknown extension ?".toList ++ t
  | unterminatedComment => "missing ), unterminated comment".toList
  | unterminatedGroup => "missing ), unterminated subpattern".toList
  | badGroupNumber => "bad group number".toList
  | tooManyBranches => "conditional backref with more than two branches".toList
  | lateGlobalFlags => "global flags not at the start of the expression".toList
  | localeFlag => "bad inline flags: cannot use 'L' flag with a str pattern".toList
  | alphabetsClash => "bad inline flags: flags 'a', 'u' and 'L' are incompatible".toList
  | missingFlagEnd => "missing -, : or )".toList
  | unknownFlag => "unknown flag".toList
  | turnOnGlobal => "bad inline flags: cannot turn on global flag".toList
  | missingFlag => "missing flag".toList
  | turnOffAlphabet => "bad inline flags: cannot turn off flags 'a', 'u' and 'L'".toList
  | missingColon => "missing :".toList
  | turnOffGlobal => "bad inline flags: cannot turn off global flag".toList
  | onAndOff => "bad inline flags: flag turned on and off".toList
  | unbalanced => "unbalanced parenthesis".toList
  | variableBehind => "look-behind requires fixed-width pattern".toList
  | templateRounds => "internal: unsupported template operator".toList
  | tooDeep => "pattern too deep".toList

end Problem

/-- The wording of a mistake in a pattern: the problem, its place, and in a pattern of several lines
also the line and the column. -/
def Mistake.message (m : Mistake) (pattern : Text) : Text :=
  match m.place? with
  | none => m.problem.message
  | some p =>
    let body := m.problem.message ++ " at position ".toList ++ Text.ofNat p
    if pattern.contains '\n' then
      let before := pattern.take p
      let line := before.count '\n' + 1
      let column := (before.reverse.takeWhile (· ≠ '\n')).length + 1
      body ++ " (line ".toList ++ Text.ofNat line ++ ", column ".toList ++ Text.ofNat column ++ [')']
    else body

/-- The wording of a failure. -/
def Failure.message (pattern : Text) : Failure → Text
  | mistake m => m.message pattern
  | tooManyRounds => "the repetition number is too large".toList
  | tooManyDigits n =>
    "Exceeds the limit (4300 digits) for integer string conversion: value has ".toList
      ++ Text.ofNat n ++ " digits; use sys.set_int_max_str_digits() to increase the limit".toList
  | twoAlphabets => "ASCII and UNICODE flags are incompatible".toList
  | noRoom => "maximum recursion depth exceeded".toList
  | crossed =>
    "The span of capturing group is wrong, please report a bug for the re module.".toList

end TreeSieve.Regex
