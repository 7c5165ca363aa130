import TreeSieve.Regex.Syntax
import TreeSieve.Text.Blank
import TreeSieve.Text.Letter
import TreeSieve.Text.Upper

/-!
# Regex — CharTest

Tests of a single character.  A literal, a set or the dot under given switches becomes a `CharTest`,
which needs no switches any more: how case is set aside is a `CaseRule` of the test, and named
classes know their alphabet.

Where case is ignored, the lower case of the character is tested.  A literal that changes case is
put into lower case for that, and one that shares its capital with other letters becomes the set of
these letters.  The members of a set are taken with all their variants as long as they lie in the
first plane; beyond it a single member stands for itself alone, and a range also for the characters
whose upper case it holds (`SetItem.has`).
-/

namespace TreeSieve.Regex

/-- How case is set aside when characters are compared. -/
inductive CaseRule where
  /-- Not at all. -/
  | exact
  /-- For the letters of ASCII. -/
  | ascii
  /-- For all letters. -/
  | full
  deriving DecidableEq, Repr

/-- How case is set aside under the switches. -/
def Flags.caseRule (f : Flags) : CaseRule :=
  if f.ignoreCase then if f.ascii then .ascii else .full else .exact

/-- Whether a code point lies in a range. -/
def inRange (first last n : Nat) : Bool := first ≤ n && n ≤ last

/-- Whether a code point is a capital letter of ASCII. -/
def isAsciiCapital (n : Nat) : Bool := inRange 0x41 0x5A n

/-- Whether a code point is a small letter of ASCII. -/
def isAsciiSmall (n : Nat) : Bool := inRange 0x61 0x7A n

/-- The last code point of the first plane. -/
def planeEnd : Nat := 0xFFFF

namespace CaseRule

/-- The code point that stands for `n` where characters are compared. -/
def lower : CaseRule → Nat → Nat
  | exact, n => n
  | ascii, n => if isAsciiCapital n then n + 32 else n
  | full, n => Text.lowerCode n

/-- Whether a code point changes case. -/
def changes : CaseRule → Nat → Bool
  | exact, _ => false
  | ascii, n => isAsciiCapital n || isAsciiSmall n
  | full, n => Text.changesCase n

/-- Whether a code point of a range changes case. -/
def changesIn (first last : Nat) : CaseRule → Bool
  | exact => false
  | ascii => (first ≤ 0x5A && 0x41 ≤ last) || (first ≤ 0x7A && 0x61 ≤ last)
  | full => Text.changingTable.any fun r => first ≤ r.2 && r.1 ≤ last

end CaseRule

/-- Whether a character belongs to a named class. -/
def CharClass.has (ascii : Bool) (c : Char) : CharClass → Bool
  | digit => if ascii then Text.isAsciiDigit c else Text.isDecimal c
  | space => if ascii then Text.isAsciiBlank c else Text.isBlank c
  | word =>
    if ascii then Text.isAsciiDigit c || Text.isAsciiLetter c || c = '_' else Text.isWord c

namespace SetItem

/-- Whether a member makes its set look at case. Members beyond the first plane always do. -/
def looksAtCase (rule : CaseRule) : SetItem → Bool
  | one code => rule ≠ .exact && (planeEnd < code || rule.changes code)
  | range first last => rule ≠ .exact && (planeEnd < last || rule.changesIn first last)
  | cls .. => false

/-- Whether the code point `n`, which has its case set aside, belongs to a member. -/
def has (rule : CaseRule) (ascii : Bool) (n : Nat) : SetItem → Bool
  | one code =>
    match rule with
    | .exact => code = n
    | .ascii => rule.lower code = n
    | .full =>
      if planeEnd < code then code = n else (Text.sameUpper n).contains (Text.lowerCode code)
  | range first last =>
    match rule with
    | .exact => inRange first last n
    | .ascii =>
      inRange first last n || (isAsciiSmall n && inRange first last (n - 32))
        || (planeEnd < last && inRange first last (Text.upperCode n))
    | .full =>
      ((Text.variants n).any fun v => v ≤ planeEnd && inRange first last v)
        || (planeEnd < last
          && (inRange first last n || inRange first last (Text.upperCode n)))
  | cls k negated => k.has ascii (Char.ofNat n) != negated

end SetItem

/-- A test of one character. -/
inductive CharTest where
  /-- Every character passes. -/
  | any
  /-- Every character but a line feed passes. -/
  | inLine
  /-- The characters that equal a code point pass, or all others. -/
  | literal (rule : CaseRule) (negated : Bool) (code : Nat)
  /-- The characters of a set pass, or all others. -/
  | set (rule : CaseRule) (ascii negated : Bool) (items : List SetItem)
  deriving DecidableEq, Repr

namespace CharTest

/-- Whether a character passes. -/
def passes (c : Char) : CharTest → Bool
  | any => true
  | inLine => c != '\n'
  | literal rule negated code => (rule.lower c.toNat = code) != negated
  | set rule ascii negated items => items.any (·.has rule ascii (rule.lower c.toNat)) != negated

/-- The test for a literal, or for all other characters. -/
def ofLiteral (f : Flags) (negated : Bool) (code : Nat) : CharTest :=
  let rule := f.caseRule
  if !rule.changes code then literal .exact negated code
  else
    let lower := rule.lower code
    if rule = .full && 1 < (Text.sameUpper lower).length then
      set rule f.ascii negated [.one lower]
    else literal rule negated lower

/-- The test for a set. -/
def ofSet (f : Flags) (negated : Bool) (items : List SetItem) : CharTest :=
  let rule := if items.any (·.looksAtCase f.caseRule) then f.caseRule else .exact
  set rule f.ascii negated items

/-- The code point that alone passes, case and all. -/
def only? : CharTest → Option Nat
  | literal .exact false code => some code
  | _ => none

/-- Whether the test can be made ahead of an alternative that begins with it. -/
def isGuard : CharTest → Bool
  | literal .exact false _ | set .exact .. => true
  | _ => false

/-- Whether the test of a character in a repetition counts as a match of its own. -/
def isSubmatch : CharTest → Bool
  | set rule .. => rule ≠ .exact
  | _ => false

end CharTest

end TreeSieve.Regex
