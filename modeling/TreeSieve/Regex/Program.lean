import TreeSieve.Regex.CharTest

/-!
# Regex — Program

What is run when a pattern is looked for.  A `Program` is an expression with its switches worked in:
single characters are tests, the text of a group is kept between two edges, and repetitions of a
single character (`chars`) are told apart from those of anything else (`rounds`).

`Node.program` makes the program of an expression, and `Pattern.ofNode` adds what a search knows
before it starts: the least number of characters of a match and a test of its first one.
-/

namespace TreeSieve.Regex

/-- A program for matching. -/
inductive Program where
  | done
  /-- Matches nothing: no alternative is left. -/
  | never
  | one (t : CharTest)
  | anchor (multiline ascii : Bool) (a : Anchor)
  /-- The place is kept as the edge with a number. -/
  | edge (i : Nat)
  | seq (a b : Program)
  /-- The alternative `a` or one of the alternatives `b`. -/
  | either (a b : Program)
  /-- Characters that pass a test; `follow?` is the one that must stand behind them. -/
  | chars (t : CharTest) (least : Nat) (most? : Option Nat) (greed : Greed) (follow? : Option Nat)
  | rounds (least : Nat) (most? : Option Nat) (greed : Greed) (body : Program)
  | atomic (body : Program)
  /-- A look at the place `back` characters earlier. -/
  | look (back : Nat) (negated : Bool) (body : Program)
  | same (rule : CaseRule) (index : Nat)
  | given (index : Nat) (yes no : Program)
  deriving Repr

/-- The number of the edge before the text of a group. -/
def leftEdge (index : Nat) : Nat := 2 * index - 2

/-- The number of the edge behind the text of a group. -/
def rightEdge (index : Nat) : Nat := 2 * index - 1

/-- The test that a program begins with, when `next?` is the test behind it. -/
def Program.firstTest? (next? : Option CharTest) : Program → Option CharTest
  | done => next?
  | one t => some t
  | seq a b => a.firstTest? (b.firstTest? next?)
  | _ => none

namespace Node

/-- The test for an expression of one character. -/
def charTest? (f : Flags) : Node → Option CharTest
  | literal code => some (.ofLiteral f false code)
  | notLiteral code => some (.ofLiteral f true code)
  | set negated items => some (.ofSet f negated items)
  | any => some (if f.dotAll then .any else .inLine)
  | switched on off body => body.charTest? (f.within on off)
  | _ => none

/-- The code point that must stand where an expression begins, when `next?` is the one behind it. -/
def firstCode? (f : Flags) (next? : Option Nat) : Node → Option Nat
  | empty => next?
  | literal code => (CharTest.ofLiteral f false code).only?
  | seq a b => a.firstCode? f (b.firstCode? f next?)
  | switched on off body => body.firstCode? (f.within on off) next?
  | _ => none

/-- The program of an expression under switches; `next?` is the code point that must stand behind
it. -/
def program (f : Flags) (next? : Option Nat) : Node → Program
  | empty => .done
  | never => .never
  | literal code => .one (.ofLiteral f false code)
  | notLiteral code => .one (.ofLiteral f true code)
  | set negated items => .one (.ofSet f negated items)
  | any => .one (if f.dotAll then .any else .inLine)
  | anchor a => .anchor f.multiline f.ascii a
  | seq a b => .seq (a.program f (b.firstCode? f next?)) (b.program f next?)
  | alt a b => .either (a.program f none) (b.program f none)
  | group i body =>
    .seq (.edge (leftEdge i)) (.seq (body.program f none) (.edge (rightEdge i)))
  | switched on off body => body.program (f.within on off) next?
  | atomic body => .atomic (body.program f none)
  | ahead negated body => .look 0 negated (body.program f none)
  | behind negated least _ body => .look least negated (body.program f none)
  | rounds least most? greed body =>
    match body.charTest? f with
    | some t => .chars t least most? greed next?
    | none => .rounds least most? greed (body.program f none)
  | same i => .same f.caseRule i
  | given i yes empty => .given i (yes.program f next?) .done
  | given i yes no => .given i (yes.program f none) (no.program f next?)

/-! ### The first character -/

/-- The code points that alternatives begin with, if each begins with a literal. -/
def firstCodes? (f : Flags) : Node → Option (List Nat)
  | never => some []
  | alt a b => do
    let code ← match a with
      | literal code | seq (literal code) _ => some code
      | _ => none
    if f.caseRule.changes code then none else return code :: (← b.firstCodes? f)
  | _ => none

/-- The test that the first character of a match must pass, if one is known. Its classes have the
alphabet of the whole pattern. -/
def opening? (ascii : Bool) (f : Flags) : Node → Option CharTest
  | literal code => if f.caseRule.changes code then none else some (.literal .exact false code)
  | set negated items =>
    let hidden : SetItem → Bool
      | .one code => f.caseRule.changes code
      | item => item.looksAtCase f.caseRule
    if items.any hidden then none else some (.set .exact ascii negated items)
  | alt a b => ((alt a b).firstCodes? f).map fun codes => .set .exact ascii false (codes.map .one)
  | seq a _ => a.opening? ascii f
  | group _ body => body.opening? ascii f
  | switched on off body => body.opening? ascii (f.within on off)
  | _ => none

end Node

/-- A pattern ready to be looked for. -/
structure Pattern where
  program : Program
  /-- The number of groups. -/
  groups : Nat
  /-- The least number of characters of a match. -/
  least : Nat
  /-- The test that the first character of a match must pass, if one is known. -/
  opening? : Option CharTest
  deriving Repr

/-- The pattern of an expression, given its switches and the widths of its groups. -/
def Pattern.ofNode (f : Flags) (groups : Nat) (widths : List (Nat × Nat × Nat)) (n : Node) :
    Pattern :=
  let least := (n.width widths).1
  { program := n.program f none
    groups := groups
    least := least
    opening? := if least = 0 then none else n.opening? f.ascii f }

end TreeSieve.Regex
