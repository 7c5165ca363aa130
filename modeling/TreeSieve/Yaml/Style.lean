import TreeSieve.Yaml.Node

/-!
# Yaml — Style

How texts are written as scalars.  A text is left plain if it reads as itself; otherwise it stands
between apostrophes, and between quotation marks with escapes if it holds a character that needs one.
A line that has grown longer than `lineWidth` is folded at its next space.
-/

namespace TreeSieve.Yaml

/-- The ways to write a scalar. -/
inductive Style where
  | plain
  | single
  | double
  deriving DecidableEq, Repr

namespace Style

/-- Some two neighbouring characters of a text are in a relation. -/
def someNeighbours (r : Char → Char → Bool) : Text → Bool
  | a :: b :: cs => r a b || someNeighbours r (b :: cs)
  | _ => false

/-- Whether a character can stand for itself: those of ASCII that print, and the space. -/
def isClear (c : Char) : Bool := ' ' ≤ c && c ≤ '~'

/-- Whether a text can only be written with escapes: it holds a character that does not print, or
spaces next to a line break, which folding would lose. -/
def needsEscapes (t : Text) : Bool :=
  t.any (fun c => c ≠ '\n' && !isClear c)
    || someNeighbours (fun a b => (a = ' ' && b = '\n') || (a = '\n' && b = ' ')) t

/-- Whether a space or the end follows. -/
def endsMark : Option Char → Bool
  | none => true
  | some c => c = ' '

/-- The characters that have a meaning at the start of a scalar. -/
def startMarks : Text := "#,[]\x7b\x7d&*!|>'\"%@`".toList

/-- Whether a text starts like something other than a plain scalar. -/
def startsMarked : Text → Bool
  | [] => true
  | c :: cs =>
    startMarks.contains c
      || ((c = '?' || c = ':' || c = '-') && endsMark cs.head?)
      || "---".toList.isPrefixOf (c :: cs) || "...".toList.isPrefixOf (c :: cs)

/-- Whether a text holds the end of a key or the start of a comment. -/
def holdsMark (t : Text) : Bool :=
  someNeighbours (fun a b => (a = ':' && b = ' ') || (a = ' ' && b = '#')) t
    || t.getLast? = some ':'

/-- Whether a text reads as itself when it stands alone. -/
def canBePlain (t : Text) : Bool :=
  !needsEscapes t && !t.contains '\n' && t.head? ≠ some ' ' && t.getLast? ≠ some ' '
    && !startsMarked t && !holdsMark t && Tag.ofPlain t = .str

/-- The style for a text. -/
def ofText (t : Text) : Style :=
  if canBePlain t then plain else if needsEscapes t then double else single

end Style

/-- The column behind which lines are folded. -/
def lineWidth : Nat := 80

/-- A new line that is set in. -/
def newLine (indent : Nat) : Text := '\n' :: List.replicate indent ' '

/-- A text without escapes behind the character `before?`, from a column on; in apostrophes each
apostrophe is written twice. A single space between words is where a long line is folded, and of some
line breaks one more is written than there are. -/
def writeFolded (quoted : Bool) (indent : Nat) : (before? : Option Char) → (column : Nat) → Text → Text
  | _, _, [] => []
  | before?, column, c :: cs =>
    if c = ' ' then
      if before?.isSome && before? ≠ some ' ' && !cs.isEmpty && cs.head? ≠ some ' '
          && lineWidth < column then
        newLine indent ++ writeFolded quoted indent (some c) indent cs
      else ' ' :: writeFolded quoted indent (some c) (column + 1) cs
    else if c = '\n' then
      let first : Text := if before? = some '\n' then [] else ['\n']
      let last : Text := if cs.head? = some '\n' then ['\n'] else newLine indent
      first ++ last ++ writeFolded quoted indent (some c) indent cs
    else if c = '\'' && quoted then
      '\'' :: '\'' :: writeFolded quoted indent (some c) (column + 2) cs
    else c :: writeFolded quoted indent (some c) (column + 1) cs

/-- The letter of a short escape. -/
def escapeLetter? (c : Char) : Option Char :=
  match c.toNat with
  | 0 => some '0'
  | 7 => some 'a'
  | 8 => some 'b'
  | 9 => some 't'
  | 10 => some 'n'
  | 11 => some 'v'
  | 12 => some 'f'
  | 13 => some 'r'
  | 27 => some 'e'
  | 34 => some '"'
  | 92 => some '\\'
  | 0x85 => some 'N'
  | 0xA0 => some '_'
  | 0x2028 => some 'L'
  | 0x2029 => some 'P'
  | _ => none

/-- The digits of a number in base sixteen with capital letters, with zeros in front up to `width`
digits. -/
def capitalHex (width n : Nat) : Text := (Text.hex width n).map Char.toUpper

/-- A character as an escape. -/
def escape (c : Char) : Text :=
  match escapeLetter? c with
  | some l => ['\\', l]
  | none =>
    if c.toNat < 0x100 then '\\' :: 'x' :: capitalHex 2 c.toNat
    else if c.toNat < 0x10000 then '\\' :: 'u' :: capitalHex 4 c.toNat
    else '\\' :: 'U' :: capitalHex 8 c.toNat

/-- A text with escapes, from a column on; `start` says that it begins here, and `escaped` that an escape
stands before. A long line is folded before a space and next to an escape, and a backslash keeps the
space that would begin the next one. -/
def writeEscaped (indent : Nat) : (start escaped : Bool) → (column : Nat) → Text → Text
  | _, _, _, [] => []
  | start, escaped, column, c :: cs =>
    let inside := !start && !cs.isEmpty
    if Style.isClear c && c ≠ '"' && c ≠ '\\' then
      if (c = ' ' || escaped) && inside && lineWidth < column then
        let guard : Text := if c = ' ' then ['\\'] else []
        '\\' :: newLine indent ++ guard
          ++ c :: writeEscaped indent false false (indent + guard.length + 1) cs
      else c :: writeEscaped indent false false (column + 1) cs
    else
      let e := escape c
      if inside && lineWidth + 1 < column + e.length then
        let guard : Text := if cs.head? = some ' ' then ['\\'] else []
        e ++ '\\' :: newLine indent ++ guard
          ++ writeEscaped indent false true (indent + guard.length) cs
      else e ++ writeEscaped indent false true (column + e.length) cs

/-- A text as a scalar that begins at a column; further lines are set in. -/
def writeScalar (column indent : Nat) (t : Text) : Text :=
  match Style.ofText t with
  | .plain => writeFolded false indent none column t
  | .single => '\'' :: writeFolded true indent none (column + 1) t ++ ['\'']
  | .double => '"' :: writeEscaped indent true false (column + 1) t ++ ['"']

end TreeSieve.Yaml
