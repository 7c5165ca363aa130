import TreeSieve.Text.Basic

/-!
# Yaml — Place

A place in a text of which lines and columns matter.  A carriage return with a line feed behind it is
one line break; a byte-order mark takes no column.
-/

namespace TreeSieve.Yaml

/-- Whether a character breaks lines. -/
def isBreak (c : Char) : Bool :=
  c = '\n' || c = '\r' || c = '\u0085' || c = '\u2028' || c = '\u2029'

/-- Whether a line or a run without spaces ends before what comes next, if anything does. -/
def endsRun : Option Char → Bool
  | none => true
  | some c => c = ' ' || isBreak c

/-- Whether a line or a run without spaces and tabs ends before what comes next. -/
def endsWord : Option Char → Bool
  | none => true
  | some c => c = ' ' || c = '\t' || isBreak c

/-- A place in a text: what is left of it, and where it stands. -/
structure Place where
  rest : Text
  index : Nat := 0
  line : Nat := 0
  column : Nat := 0

namespace Place

/-- The next character. -/
def next? (p : Place) : Option Char := p.rest.head?

/-- The character behind the next one. -/
def second? (p : Place) : Option Char := (p.rest.drop 1).head?

/-- The place behind the next character. -/
def step (p : Place) : Place :=
  match p.rest with
  | [] => p
  | c :: cs =>
    if isBreak c && !(c = '\r' && cs.head? = some '\n') then
      { rest := cs, index := p.index + 1, line := p.line + 1, column := 0 }
    else
      { rest := cs, index := p.index + 1, line := p.line
        column := if c = '\uFEFF' then p.column else p.column + 1 }

/-- The place behind the next `n` characters. -/
def skip : (n : Nat) → Place → Place
  | 0, p => p
  | n + 1, p => skip n p.step

/-- The longest run of characters satisfying `q`, and the place behind it. -/
def span (p : Place) (q : Char → Bool) : Text × Place :=
  let run := p.rest.takeWhile q
  (run, p.skip run.length)

/-- The place behind the spaces here. -/
def skipSpaces (p : Place) : Place := (p.span (· = ' ')).2

/-- The place before the end of the line. -/
def skipLine (p : Place) : Place := (p.span (! isBreak ·)).2

/-- The line break here, as the text that stands for it, and the place behind it. -/
def lineBreak? (p : Place) : Option (Char × Place) :=
  match p.rest with
  | '\r' :: '\n' :: _ => some ('\n', p.skip 2)
  | c :: _ =>
    if c = '\u2028' || c = '\u2029' then some (c, p.step)
    else if isBreak c then some ('\n', p.step)
    else none
  | [] => none

/-- Whether a mark between documents stands here, given that a line begins here. -/
def atSeparator (p : Place) : Bool :=
  ("---".toList.isPrefixOf p.rest || "...".toList.isPrefixOf p.rest)
    && endsWord (p.rest.drop 3).head?

end Place

end TreeSieve.Yaml
