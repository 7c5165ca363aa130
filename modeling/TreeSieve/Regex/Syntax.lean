import TreeSieve.Text.Basic

/-!
# Regex — Syntax

Regular expressions as trees.  Characters are kept as code points, so that a pattern may name code
points that no text holds.
-/

namespace TreeSieve.Regex

/-- The switches that a pattern can be read and matched under. -/
structure Flags where
  ignoreCase : Bool := false
  multiline : Bool := false
  dotAll : Bool := false
  verbose : Bool := false
  ascii : Bool := false
  unicode : Bool := false
  template : Bool := false
  deriving DecidableEq, Repr, Inhabited

namespace Flags

/-- The switches set on either side. -/
def union (a b : Flags) : Flags where
  ignoreCase := a.ignoreCase || b.ignoreCase
  multiline := a.multiline || b.multiline
  dotAll := a.dotAll || b.dotAll
  verbose := a.verbose || b.verbose
  ascii := a.ascii || b.ascii
  unicode := a.unicode || b.unicode
  template := a.template || b.template

/-- The switches set on both sides. -/
def meet (a b : Flags) : Flags where
  ignoreCase := a.ignoreCase && b.ignoreCase
  multiline := a.multiline && b.multiline
  dotAll := a.dotAll && b.dotAll
  verbose := a.verbose && b.verbose
  ascii := a.ascii && b.ascii
  unicode := a.unicode && b.unicode
  template := a.template && b.template

/-- The switches under which a group of its own switches is matched inside `outer`: a choice of
alphabet replaces the one outside. -/
def within (outer on off : Flags) : Flags :=
  let kept := if on.ascii || on.unicode then { outer with ascii := false, unicode := false } else outer
  let all := kept.union on
  { ignoreCase := all.ignoreCase && !off.ignoreCase
    multiline := all.multiline && !off.multiline
    dotAll := all.dotAll && !off.dotAll
    verbose := all.verbose && !off.verbose
    ascii := all.ascii
    unicode := all.unicode
    template := all.template }

end Flags

/-- The named classes of characters. -/
inductive CharClass where
  | digit
  | space
  | word
  deriving DecidableEq, Repr

/-- A member of a character set. -/
inductive SetItem where
  | one (code : Nat)
  | range (first last : Nat)
  | cls (c : CharClass) (negated : Bool)
  deriving DecidableEq, Repr

/-- Conditions on a position. -/
inductive Anchor where
  | lineStart
  | lineEnd
  | textStart
  | textEnd
  | wordEdge
  | notWordEdge
  deriving DecidableEq, Repr

/-- How a repetition chooses among its numbers of rounds. -/
inductive Greed where
  /-- As many as possible, fewer when the rest fails. -/
  | greedy
  /-- As few as possible, more when the rest fails. -/
  | lazy
  /-- As many as possible, and no other number. -/
  | possessive
  deriving DecidableEq, Repr

/-- A regular expression. -/
inductive Node where
  | empty
  /-- Matches nothing: no alternative is left. -/
  | never
  | literal (code : Nat)
  | notLiteral (code : Nat)
  | set (negated : Bool) (items : List SetItem)
  | any
  | anchor (a : Anchor)
  | seq (a b : Node)
  /-- The alternative `a` or one of the alternatives `b`. -/
  | alt (a b : Node)
  /-- A group whose text is kept under its number. -/
  | group (index : Nat) (body : Node)
  /-- A group with switches of its own. -/
  | switched (on off : Flags) (body : Node)
  /-- A group that is matched in its first way only. -/
  | atomic (body : Node)
  | ahead (negated : Bool) (body : Node)
  /-- A look behind, with the least and the greatest width of its body. -/
  | behind (negated : Bool) (least greatest : Nat) (body : Node)
  /-- At least `least` and, if there is a bound, at most `most?` rounds. -/
  | rounds (least : Nat) (most? : Option Nat) (greed : Greed) (body : Node)
  /-- The text that a group has kept. -/
  | same (index : Nat)
  /-- One expression if a group has kept a text, another if not. -/
  | given (index : Nat) (yes no : Node)
  deriving Repr

namespace Node

/-! ### Sequences

A sequence is `empty`, an expression that is no sequence, or `seq a b` of such an expression and a
sequence that is not `empty`. -/

/-- Two sequences, one after the other. -/
def append : Node → Node → Node
  | empty, m => m
  | seq a b, m => seq a (b.append m)
  | n, empty => n
  | n, m => seq n m

/-- The sequence of sequences. -/
def sequence (ns : List Node) : Node := ns.foldr append empty

/-- The parts of a sequence. -/
def items : Node → List Node
  | empty => []
  | seq a b => a :: b.items
  | n => [n]

/-! ### Alternatives -/

/-- Whether two expressions without expressions inside them are written alike. -/
def isSame : Node → Node → Bool
  | literal a, literal b | notLiteral a, notLiteral b | same a, same b => a = b
  | set neg as, set neg' bs => neg = neg' && as = bs
  | any, any => true
  | anchor a, anchor b => a = b
  | _, _ => false

/-- Takes out the parts that all alternatives begin with: those parts, what is left of the first
alternative, and what is left of the others. -/
def takeShared : List Node → List (List Node) → List Node × List Node × List (List Node)
  | [], others => ([], [], others)
  | n :: ns, others =>
    if others.all fun o => o.head?.any n.isSame then
      let (shared, first, others) := takeShared ns (others.map (·.drop 1))
      (n :: shared, first, others)
    else ([], n :: ns, others)

/-- The members of a set that holds what an alternative of one character matches. -/
def setItems? : List Node → Option (List SetItem)
  | [literal code] => some [.one code]
  | [set false items] => some items
  | _ => none

/-- The expression for alternatives. What all begin with comes out in front, and alternatives of one
character become a set. -/
def alternatives : List Node → Node
  | [] => never
  | [n] => n
  | n :: ns =>
    let (shared, first, others) := takeShared n.items (ns.map items)
    let rest := first :: others
    let choice := match rest.mapM setItems? with
      | some items => set false items.flatten.eraseDups
      | none => rest.foldr (fun ns => alt (sequence ns)) never
    sequence (shared ++ [choice])

/-! ### Width -/

/-- The greatest number of rounds that can be written. -/
def roundLimit : Nat := 4294967295

/-- The greatest number of characters that is told apart as a least width. -/
def leastLimit : Nat := roundLimit - 1

/-- The number of characters that stands for all greater ones as a greatest width. -/
def greatestLimit : Nat := roundLimit

/-- The least and the greatest number of characters that an expression takes, up to the limits,
given those of the groups it refers to. -/
def width (groups : List (Nat × Nat × Nat)) : Node → Nat × Nat
  | empty | anchor _ | ahead .. | behind .. => (0, 0)
  | never => (leastLimit, 0)
  | literal _ | notLiteral _ | set .. | any => (1, 1)
  | seq a b =>
    let (l, h) := a.width groups
    let (l', h') := b.width groups
    (min (l + l') leastLimit, min (h + h') greatestLimit)
  | alt a b =>
    let (l, h) := a.width groups
    let (l', h') := b.width groups
    (min l l', max h h')
  | group _ body | switched _ _ body | atomic body => body.width groups
  | rounds least most? _ body =>
    let (l, h) := body.width groups
    (min (l * least) leastLimit, min (h * most?.getD greatestLimit) greatestLimit)
  | same i => (groups.lookup i).getD (0, 0)
  | given _ yes no =>
    let (l, h) := yes.width groups
    let (l', h') := no.width groups
    (min l l', max h h')

/-- Whether a property holds of the expression and all expressions inside it. -/
def all (p : Node → Bool) (n : Node) : Bool :=
  p n && match n with
    | seq a b | alt a b | given _ a b => a.all p && b.all p
    | group _ b | switched _ _ b | atomic b | ahead _ b | behind _ _ _ b | rounds _ _ _ b => b.all p
    | _ => true

end Node

end TreeSieve.Regex
