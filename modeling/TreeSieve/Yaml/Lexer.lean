import TreeSieve.Yaml.Lexeme

/-!
# Yaml — Lexer

Cutting a document into tokens.  A block is known by its margin, the column of its entries plus one,
with zero outside all blocks; a line that starts left of the margin ends the block.

A scalar, an alias or a bracket may turn out to be a key when a colon follows it on its line.  Such
places are kept as possible keys, one for each depth of brackets, with the number of the token before
which the key would begin.  No token is known before it is known whether a key begins there, so what is
wrong with the text behind a possible key comes up at the key.
-/

namespace TreeSieve.Yaml

/-- A place where a key may begin. -/
structure PossibleKey where
  /-- The number of tokens before it. -/
  number : Nat
  /-- Whether nothing but a key can stand there. -/
  required : Bool
  index : Nat
  line : Nat
  column : Nat

/-- The state of the cutting. -/
structure Lexer where
  place : Place
  /-- The tokens so far, the last one first. -/
  tokens : List Token := []
  count : Nat := 0
  /-- The depth of brackets. -/
  depth : Nat := 0
  /-- The margin of the block around, and those of the blocks around it. -/
  margin : Nat := 0
  margins : List Nat := []
  /-- Whether a key may begin here. -/
  keyAllowed : Bool := true
  /-- The possible keys by depth. -/
  keys : List (Nat × PossibleKey) := []

namespace Lexer

/-- Adds a token. -/
def put (l : Lexer) (t : Token) : Lexer := { l with tokens := t :: l.tokens, count := l.count + 1 }

/-- Adds a token before all but the first `n` tokens. -/
def insertAt (l : Lexer) (n : Nat) (t : Token) : Lexer :=
  let k := l.count - n
  { l with tokens := l.tokens.take k ++ t :: l.tokens.drop k, count := l.count + 1 }

/-- Moves on by some characters. -/
def move (l : Lexer) (n : Nat) : Lexer := { l with place := l.place.skip n }

/-- Whether brackets are open. -/
def inFlow (l : Lexer) : Bool := 0 < l.depth

/-- Drops the possible key of this depth, unless it must be a key. -/
def dropKey (l : Lexer) : Scans Lexer :=
  match l.keys.lookup l.depth with
  | some k =>
    if k.required then malformed else .ok { l with keys := l.keys.filter (·.1 ≠ l.depth) }
  | none => .ok l

/-- Notes that a key may begin here. -/
def noteKey (l : Lexer) : Scans Lexer :=
  if l.keyAllowed then do
    let l ← l.dropKey
    let p := l.place
    let key : PossibleKey :=
      { number := l.count, required := !l.inFlow && l.margin = p.column + 1
        index := p.index, line := p.line, column := p.column }
    return { l with keys := (l.depth, key) :: l.keys }
  else .ok l

/-- Whether a possible key can no longer become one: its line has ended, or it is too long. -/
def isStale (l : Lexer) (k : PossibleKey) : Bool :=
  k.line ≠ l.place.line || 1024 < l.place.index - k.index

/-- Drops the possible keys that can no longer become keys. -/
def dropStale (l : Lexer) : Scans Lexer :=
  if l.keys.any fun (_, k) => l.isStale k && k.required then malformed
  else .ok { l with keys := l.keys.filter fun (_, k) => !l.isStale k }

/-- The number of the first token that may still be the start of a key. -/
def awaited? (l : Lexer) : Option Nat :=
  ((l.keys.filter fun (_, k) => !l.isStale k).map fun (_, k) => k.number).min?

/-- The tokens up to a failure, which comes up at the token that is awaited, or else as the next one. -/
def broken (l : Lexer) (awaited? : Option Nat) (f : Failure) : List Token :=
  (Token.broken f :: l.tokens.drop (l.count - awaited?.getD l.count)).reverse

/-- Ends the blocks that lie right of a margin. -/
def endBlocks (l : Lexer) (margin : Nat) : Lexer :=
  if l.inFlow then l
  else
    let ended := l.margin :: l.margins
    let inner := ended.takeWhile (margin < ·)
    match ended.dropWhile (margin < ·) with
    | m :: ms =>
      { l with tokens := List.replicate inner.length Token.blockEnd ++ l.tokens
               count := l.count + inner.length, margin := m, margins := ms }
    | [] => l

/-- Starts a block of the kind given at a column, if one must start there; its token goes before all
but the first `n` tokens. -/
def startBlock (l : Lexer) (n column : Nat) (t : Token) : Lexer :=
  if l.margin < column + 1 then
    ({ l with margins := l.margin :: l.margins, margin := column + 1 } : Lexer).insertAt n t
  else l

/-- Skips blank lines and comments up to the next token. Behind a line break a key may begin. -/
def skipBlank : (fuel : Nat) → Lexer → Lexer
  | 0, l => l
  | fuel + 1, l =>
    let p := l.place.skipSpaces
    let p := if p.next? = some '#' then p.skipLine else p
    match p.lineBreak? with
    | none => { l with place := p }
    | some (_, p) =>
      skipBlank fuel { l with place := p, keyAllowed := l.keyAllowed || !l.inFlow }

/-! ### Tokens -/

/-- A token that ends all blocks, with its length. -/
def mark (l : Lexer) (n : Nat) (t : Token) : Scans Lexer := do
  let l ← (l.endBlocks 0).dropKey
  return ({ l with keyAllowed := false } : Lexer).put t |>.move n

/-- A directive. -/
def directive (l : Lexer) : Scans Lexer := do
  let l ← (l.endBlocks 0).dropKey
  let (t, p) ← scanDirective l.place
  return { l with keyAllowed := false, place := p } |>.put t

/-- An opening bracket. -/
def openFlow (l : Lexer) (t : Token) : Scans Lexer := do
  let l ← l.noteKey
  return ({ l with depth := l.depth + 1, keyAllowed := true } : Lexer).put t |>.move 1

/-- A closing bracket. -/
def closeFlow (l : Lexer) (t : Token) : Scans Lexer := do
  let l ← l.dropKey
  return ({ l with depth := l.depth - 1, keyAllowed := false } : Lexer).put t |>.move 1

/-- A comma between entries in brackets. -/
def flowEntry (l : Lexer) : Scans Lexer := do
  let l ← ({ l with keyAllowed := true } : Lexer).dropKey
  return l.put .flowEntry |>.move 1

/-- A dash before an entry of a block. -/
def blockEntry (l : Lexer) : Scans Lexer :=
  if !l.inFlow && !l.keyAllowed then malformed
  else do
    let l := if l.inFlow then l else l.startBlock l.count l.place.column .blockSequenceStart
    let l ← ({ l with keyAllowed := true } : Lexer).dropKey
    return l.put .blockEntry |>.move 1

/-- A question mark before a key. -/
def key (l : Lexer) : Scans Lexer :=
  if !l.inFlow && !l.keyAllowed then malformed
  else do
    let l := if l.inFlow then l else l.startBlock l.count l.place.column .blockMappingStart
    let l ← ({ l with keyAllowed := !l.inFlow } : Lexer).dropKey
    return l.put .key |>.move 1

/-- A colon before a value: what began at the possible key of this depth is a key. -/
def value (l : Lexer) : Scans Lexer :=
  match l.keys.lookup l.depth with
  | some k =>
    let l := ({ l with keys := l.keys.filter (·.1 ≠ l.depth) } : Lexer).insertAt k.number .key
    let l := if l.inFlow then l else l.startBlock k.number k.column .blockMappingStart
    .ok (({ l with keyAllowed := false } : Lexer).put .value |>.move 1)
  | none =>
    if !l.inFlow && !l.keyAllowed then malformed
    else do
      let l := if l.inFlow then l else l.startBlock l.count l.place.column .blockMappingStart
      let l ← ({ l with keyAllowed := !l.inFlow } : Lexer).dropKey
      return l.put .value |>.move 1

/-- A token that may begin a key, read by `scan`. -/
def word (l : Lexer) (scan : Place → Scans (Token × Place)) : Scans Lexer := do
  let l ← l.noteKey
  let (t, p) ← scan l.place
  return { l with keyAllowed := false, place := p } |>.put t

/-- An anchor or alias. -/
def named (l : Lexer) (make : Text → Token) : Scans Lexer :=
  l.word fun p => (scanName p.step).map fun (name, p) => (make name, p)

/-- A block scalar. -/
def block (l : Lexer) : Scans Lexer := do
  let l ← ({ l with keyAllowed := true } : Lexer).dropKey
  let (t, p) ← scanBlock l.margin l.place
  return { l with place := p } |>.put t

/-- A plain scalar. -/
def plain (l : Lexer) : Scans Lexer := do
  let l ← l.noteKey
  let (t, ended, p) := scanPlainText l.inFlow l.margin (l.place.rest.length + 1) [] false l.place
  return { l with keyAllowed := ended, place := p } |>.put (.scalar true t)

/-- Whether a plain scalar can begin with `c`, given what follows. -/
def beginsPlain (inFlow : Bool) (c : Char) (second? : Option Char) : Bool :=
  (!endsWord (some c) && !"-?:,[]\x7b\x7d#&*!|>'\"%@\x60".toList.contains c)
    || (!endsWord second? && (c = '-' || (!inFlow && (c = '?' || c = ':'))))

/-- The next token, which begins with `c`. -/
def next (l : Lexer) (c : Char) : Scans Lexer :=
  let p := l.place
  let spaced := endsWord p.second?
  if c = '%' && p.column = 0 then l.directive
  else if p.column = 0 && p.atSeparator then
    l.mark 3 (if c = '-' then .documentStart else .documentEnd)
  else if c = '[' then l.openFlow .flowSequenceStart
  else if c = '\x7b' then l.openFlow .flowMappingStart
  else if c = ']' then l.closeFlow .flowSequenceEnd
  else if c = '\x7d' then l.closeFlow .flowMappingEnd
  else if c = ',' then l.flowEntry
  else if c = '-' && spaced then l.blockEntry
  else if c = '?' && (l.inFlow || spaced) then l.key
  else if c = ':' && (l.inFlow || spaced) then l.value
  else if c = '*' then l.named .alias
  else if c = '&' then l.named .anchor
  else if c = '!' then l.word scanTag
  else if (c = '|' || c = '>') && !l.inFlow then l.block
  else if c = '\'' || c = '"' then l.word scanQuoted
  else if beginsPlain l.inFlow c p.second? then l.plain
  else malformed

/-- The tokens from here on, while a token may be awaited; they end with the end of the stream or where
the text is broken. -/
def run : (fuel : Nat) → (awaited? : Option Nat) → Lexer → List Token
  | 0, awaited?, l => l.broken awaited? .malformed
  | fuel + 1, awaited?, l =>
    match (skipBlank (l.place.rest.length + 1) l).dropStale with
    | .error f => l.broken awaited? f
    | .ok l =>
      let l := l.endBlocks (l.place.column + 1)
      match l.place.rest with
      | [] =>
        match (l.endBlocks 0).dropKey with
        | .error f => l.broken awaited? f
        | .ok l => (.streamEnd :: l.tokens).reverse
      | c :: _ =>
        match l.next c with
        | .error f => l.broken awaited? f
        | .ok l => run fuel l.awaited? l

end Lexer

/-- Whether a character can stand in a document. -/
def isDocumentChar (c : Char) : Bool :=
  let n := c.toNat
  n = 9 || n = 10 || n = 13 || (0x20 ≤ n && n ≤ 0x7E) || n = 0x85 || (0xA0 ≤ n && n ≤ 0xD7FF)
    || (0xE000 ≤ n && n ≤ 0xFFFD) || 0x10000 ≤ n

/-- The tokens of a text. A byte-order mark at its start is skipped. -/
def tokens (t : Text) : List Token :=
  if !t.all isDocumentChar then [.broken .malformed]
  else
    let start : Place := { rest := t }
    let start := if t.head? = some '\uFEFF' then start.step else start
    Lexer.run (t.length + 1) none { place := start }

end TreeSieve.Yaml
