import TreeSieve.Number.Integer
import TreeSieve.Yaml.Place
import TreeSieve.Yaml.Token

/-!
# Yaml — Lexeme

Scanning of the tokens that have a text: directives, names of anchors, tags, and scalars in their
five styles.  Each function starts at a place and gives what it read and the place behind it.

Line breaks inside a scalar are folded: a single break becomes a space, and of several breaks the
first one goes.
-/

namespace TreeSieve.Yaml

/-- The outcome of scanning. -/
abbrev Scans (α : Type) := Except Failure α

/-- The text is malformed. -/
def malformed {α : Type} : Scans α := .error .malformed

/-- Whether a character can stand in the name of an anchor or a directive. -/
def isNameChar (c : Char) : Bool :=
  Text.isAsciiDigit c || Text.isAsciiLetter c || c = '-' || c = '_'

/-- Whether a character can stand in a tag. -/
def isTagChar (c : Char) : Bool :=
  Text.isAsciiDigit c || Text.isAsciiLetter c || "-;/?:@&=+$,_.!~*'()[]".toList.contains c

/-- Whether a character is a hexadecimal digit. -/
def isHexDigit (c : Char) : Bool := Number.isBaseDigit 16 c

/-! ### Anchors and tags -/

/-- The name of an anchor or alias, behind its mark. -/
def scanName (p : Place) : Scans (Text × Place) :=
  let (name, p) := p.span isNameChar
  let ends := match p.next? with
    | none => true
    | some c => endsWord (some c) || "?:,]\x7d%@\x60".toList.contains c
  if name.isEmpty || !ends then malformed else .ok (name, p)

/-- The text of some bytes, if they are UTF-8. -/
def ofUtf8? (bytes : List Nat) : Option Text :=
  (String.fromUTF8? (ByteArray.mk (bytes.map UInt8.ofNat).toArray)).map (·.toList)

/-- The bytes written as percent signs with two digits each. -/
def scanEscapedBytes : (fuel : Nat) → Place → Scans (List Nat × Place)
  | 0, p => .ok ([], p)
  | fuel + 1, p =>
    match p.rest with
    | '%' :: a :: b :: _ =>
      if isHexDigit a && isHexDigit b then do
        let (bytes, p) ← scanEscapedBytes fuel (p.skip 3)
        return (Number.ofDigits 16 [a, b] :: bytes, p)
      else malformed
    | '%' :: _ => malformed
    | _ => .ok ([], p)

/-- The characters of a tag. -/
def scanTagText : (fuel : Nat) → Place → Scans (Text × Place)
  | 0, p => .ok ([], p)
  | fuel + 1, p =>
    if p.next? = some '%' then do
      let (bytes, p) ← scanEscapedBytes fuel p
      match ofUtf8? bytes with
      | none => malformed
      | some t =>
        let (t', p) ← scanTagText fuel p
        return (t ++ t', p)
    else
      let (t, q) := p.span isTagChar
      if t.isEmpty then .ok ([], q)
      else do
        let (t', p) ← scanTagText fuel q
        return (t ++ t', p)

/-- The text of a tag, which is not empty. -/
def scanTagUri (p : Place) : Scans (Text × Place) := do
  let (t, q) ← scanTagText (p.rest.length + 1) p
  if q.index = p.index then malformed else return (t, q)

/-- A tag handle: exclamation marks with a name between them, or a single one before a space. -/
def scanTagHandle (p : Place) : Scans (Text × Place) :=
  if p.next? ≠ some '!' then malformed
  else if p.second? = some ' ' then .ok (['!'], p.step)
  else
    let (name, q) := p.step.span isNameChar
    if q.next? = some '!' then .ok ('!' :: name ++ ['!'], q.step) else malformed

/-- A tag, from its exclamation mark on. -/
def scanTag (p : Place) : Scans (Token × Place) := do
  let (token, p) ←
    if p.second? = some '<' then do
      let (suffix, p) ← scanTagUri (p.skip 2)
      if p.next? = some '>' then pure (Token.tag none suffix, p.step) else malformed
    else if endsWord p.second? then pure (Token.tag none ['!'], p.step)
    else do
      let word := p.step.rest.takeWhile fun c => !endsRun (some c)
      let (handle, p) ← if word.contains '!' then scanTagHandle p else pure (['!'], p.step)
      let (suffix, p) ← scanTagUri p
      pure (Token.tag (some handle) suffix, p)
  if endsRun p.next? then return (token, p) else malformed

/-! ### Directives -/

/-- The number of a version. -/
def scanVersionPart (p : Place) : Scans (Nat × Place) :=
  let (ds, p) := p.span Text.isAsciiDigit
  if ds.isEmpty then malformed
  else if Number.digitLimit < ds.length then .error (.value (.hugeNumeral ds.length))
  else .ok (Number.ofDigits 10 ds, p)

/-- The rest of a line that holds nothing but spaces and a comment. -/
def scanLineEnd (p : Place) : Scans Place :=
  let p := p.skipSpaces
  let p := if p.next? = some '#' then p.skipLine else p
  match p.lineBreak? with
  | some (_, q) => .ok q
  | none => if p.rest.isEmpty then .ok p else malformed

/-- A directive, from its percent sign on. -/
def scanDirective (p : Place) : Scans (Token × Place) := do
  let (name, p) := p.step.span isNameChar
  if name.isEmpty || !endsRun p.next? then malformed
  else
    let (directive, p) ←
      if name = "YAML".toList then do
        let (major, p) ← scanVersionPart p.skipSpaces
        if p.next? ≠ some '.' then malformed
        else do
          let (_, p) ← scanVersionPart p.step
          if endsRun p.next? then pure (Directive.version major, p) else malformed
      else if name = "TAG".toList then do
        let (handle, p) ← scanTagHandle p.skipSpaces
        if p.next? ≠ some ' ' then malformed
        else do
          let (start, p) ← scanTagUri p.skipSpaces
          if endsRun p.next? then pure (Directive.tag handle start, p) else malformed
      else pure (Directive.other, p.skipLine)
    return (.directive directive, ← scanLineEnd p)

/-! ### Quoted scalars -/

/-- The characters with a short escape. -/
def shortEscape? : Char → Option Nat
  | '0' => some 0
  | 'a' => some 7
  | 'b' => some 8
  | 't' => some 9
  | '\t' => some 9
  | 'n' => some 10
  | 'v' => some 11
  | 'f' => some 12
  | 'r' => some 13
  | 'e' => some 27
  | ' ' => some 32
  | '"' => some 34
  | '\\' => some 92
  | '/' => some 47
  | 'N' => some 0x85
  | '_' => some 0xA0
  | 'L' => some 0x2028
  | 'P' => some 0x2029
  | _ => none

/-- The number of digits of an escape by number. -/
def escapeDigits? : Char → Option Nat
  | 'x' => some 2
  | 'u' => some 4
  | 'U' => some 8
  | _ => none

/-- The character with a number. -/
def charOfNumber (n : Nat) : Scans Char :=
  if n < 0x110000 then .ok (Char.ofNat n)
  else .error (.value (if n < Nat.pow 2 31 then .noCodePoint else .hugeCodePoint))

/-- The breaks of the blank lines that follow a line break, up to the next text. -/
def scanQuotedBreaks : (fuel : Nat) → Place → Scans (Text × Place)
  | 0, p => .ok ([], p)
  | fuel + 1, p =>
    if p.atSeparator then malformed
    else
      let p := (p.span fun c => c = ' ' || c = '\t').2
      match p.lineBreak? with
      | none => .ok ([], p)
      | some (c, p) => do
        let (cs, p) ← scanQuotedBreaks fuel p
        return (c :: cs, p)

/-- What a line break and the breaks of blank lines behind it become. -/
def foldBreaks (first : Char) (more : Text) : Text :=
  if first ≠ '\n' then first :: more else if more.isEmpty then [' '] else more

/-- An escape in a scalar with double quotation marks, behind its backslash. -/
def scanEscape (fuel : Nat) (p : Place) : Scans (Text × Place) :=
  match p.rest with
  | [] => malformed
  | c :: _ =>
    match shortEscape? c, escapeDigits? c with
    | some n, _ => .ok ([Char.ofNat n], p.step)
    | none, some k =>
      let ds := (p.rest.drop 1).take k
      if ds.length = k && ds.all isHexDigit then
        (charOfNumber (Number.ofDigits 16 ds)).map fun c => ([c], p.skip (k + 1))
      else malformed
    | none, none =>
      match p.lineBreak? with
      | some (_, p) => scanQuotedBreaks fuel p
      | none => malformed

/-- The text of a scalar in quotation marks, up to the closing one. -/
def scanQuotedText (double : Bool) : (fuel : Nat) → Place → Scans (Text × Place)
  | 0, _ => malformed
  | fuel + 1, p =>
    let andThen (t : Text) (p : Place) : Scans (Text × Place) := do
      let (t', p) ← scanQuotedText double fuel p
      return (t ++ t', p)
    match p.rest with
    | [] => malformed
    | c :: cs =>
      if c = '"' && double then .ok ([], p.step)
      else if c = '\'' && !double then
        if cs.head? = some '\'' then andThen ['\''] (p.skip 2) else .ok ([], p.step)
      else if c = '\\' && double then do
        let (t, p) ← scanEscape fuel p.step
        andThen t p
      else if c = ' ' || c = '\t' then
        let (blanks, q) := p.span fun c => c = ' ' || c = '\t'
        match q.next? with
        | none => malformed
        | some d => if isBreak d then andThen [] q else andThen blanks q
      else
        match p.lineBreak? with
        | some (first, p) => do
          let (more, p) ← scanQuotedBreaks fuel p
          andThen (foldBreaks first more) p
        | none => andThen [c] p.step

/-- A scalar in quotation marks, from the opening one on. -/
def scanQuoted (p : Place) : Scans (Token × Place) := do
  let (t, q) ← scanQuotedText (p.next? = some '"') (p.rest.length + 1) p.step
  return (.scalar false t, q)

/-! ### Plain scalars -/

/-- Whether a plain scalar ends before the text `c :: cs`; in brackets more marks end it. -/
def endsPlain (inFlow : Bool) (c : Char) (cs : Text) : Bool :=
  endsWord (some c)
    || (c = ':' && (endsWord cs.head? || (inFlow && ",[]\x7b\x7d".toList.contains (cs.headD 'a'))))
    || (inFlow && ",?[]\x7b\x7d".toList.contains c)

/-- The run of a plain scalar at the start of a text. -/
def plainRun (inFlow : Bool) : Text → Text
  | [] => []
  | c :: cs => if endsPlain inFlow c cs then [] else c :: plainRun inFlow cs

/-- The breaks of blank lines inside a plain scalar; `none` at a mark between documents. -/
def scanPlainBreaks : (fuel : Nat) → Place → Option Text × Place
  | 0, p => (some [], p)
  | fuel + 1, p =>
    let p := p.skipSpaces
    match p.lineBreak? with
    | none => (some [], p)
    | some (c, p) =>
      if p.atSeparator then (none, p)
      else
        let (cs?, p) := scanPlainBreaks fuel p
        (cs?.map (c :: ·), p)

/-- The blanks between two runs of a plain scalar, as text, and whether a line ends in them; nothing
when the scalar cannot go on behind them. -/
def scanPlainBlanks (p : Place) : Text × Bool × Place :=
  let (spaces, p) := p.span (· = ' ')
  match p.lineBreak? with
  | none => (spaces, false, p)
  | some (first, p) =>
    if p.atSeparator then ([], true, p)
    else
      let (more?, p) := scanPlainBreaks (p.rest.length + 1) p
      match more? with
      | none => ([], true, p)
      | some more => (foldBreaks first more, true, p)

/-- A plain scalar with `before` in front of its next run: its text, whether a line ends behind it,
and the place there. -/
def scanPlainText (inFlow : Bool) (margin : Nat) : (fuel : Nat) → (before : Text) → (newLine : Bool) →
    Place → Text × Bool × Place
  | 0, _, newLine, p => ([], newLine, p)
  | fuel + 1, before, newLine, p =>
    if p.next? = some '#' then ([], newLine, p)
    else
      let run := plainRun inFlow p.rest
      if run.isEmpty then ([], newLine, p)
      else
        let (blanks, ended, q) := scanPlainBlanks (p.skip run.length)
        if blanks.isEmpty || q.next? = some '#' || (!inFlow && q.column < margin) then
          (before ++ run, ended, q)
        else
          let (t, ended, q) := scanPlainText inFlow margin fuel blanks ended q
          (before ++ run ++ t, ended, q)

/-! ### Block scalars -/

/-- How the line breaks at the end of a block scalar are treated. -/
inductive Chomp where
  /-- None is kept. -/
  | strip
  /-- One is kept. -/
  | clip
  /-- All are kept. -/
  | keep
  deriving DecidableEq, Repr

/-- The mark for the line breaks at the end. -/
def chompMark? : Option Char → Option Chomp
  | some '+' => some .keep
  | some '-' => some .strip
  | _ => none

/-- The marks behind the opening of a block scalar: the treatment of its end, and its indentation. -/
def scanBlockHeader (p : Place) : Scans (Chomp × Option Nat × Place) := do
  let indent (p : Place) : Scans (Option Nat × Place) :=
    match p.next? with
    | some c =>
      if !Text.isAsciiDigit c then .ok (none, p)
      else if c = '0' then malformed
      else .ok (some (c.toNat - '0'.toNat), p.step)
    | none => .ok (none, p)
  let (chomp, indent?, p) ← match chompMark? p.next? with
    | some k => do
      let (n?, p) ← indent p.step
      pure (k, n?, p)
    | none => do
      let (n?, p) ← indent p
      match chompMark? p.next?, n? with
      | some k, some _ => pure (k, n?, p.step)
      | _, _ => pure (Chomp.clip, n?, p)
  if endsRun p.next? then return (chomp, indent?, p) else malformed

/-- The blank lines at the start of a block scalar, and the greatest indentation among them. -/
def scanBlockIndent : (fuel : Nat) → (greatest : Nat) → Place → Text × Nat × Place
  | 0, greatest, p => ([], greatest, p)
  | fuel + 1, greatest, p =>
    let p := p.skipSpaces
    let greatest := max greatest p.column
    match p.lineBreak? with
    | none => ([], greatest, p)
    | some (c, p) =>
      let (cs, greatest, p) := scanBlockIndent fuel greatest p
      (c :: cs, greatest, p)

/-- The place behind at most so many spaces as lead to a column. -/
def spacesTo (column : Nat) (p : Place) : Place :=
  p.skip ((p.rest.take (column - p.column)).takeWhile (· = ' ')).length

/-- The blank lines between two lines of a block scalar. -/
def scanBlockBreaks (column : Nat) : (fuel : Nat) → Place → Text × Place
  | 0, p => ([], p)
  | fuel + 1, p =>
    let p := spacesTo column p
    match p.lineBreak? with
    | none => ([], p)
    | some (c, p) =>
      let (cs, p) := scanBlockBreaks column fuel p
      (c :: cs, p)

/-- What stands between two lines of a block scalar: the break, folded when neither line starts with
a blank, and the breaks of blank lines. -/
def blockBreak (folded : Bool) (before after : Option Char) (first? : Option Char) (more : Text) :
    Text :=
  let blank (c : Option Char) : Bool := c = some ' ' || c = some '\t'
  if folded && first? = some '\n' && !blank before && !blank after then
    if more.isEmpty then [' '] else more
  else first?.toList ++ more

/-- The lines of a block scalar from the place where a line begins, and how it ends: the last break
and the breaks of blank lines behind it. -/
def scanBlockLines (folded : Bool) (column : Nat) : (fuel : Nat) → Place →
    Text × Option Char × Text × Place
  | 0, p => ([], none, [], p)
  | fuel + 1, p =>
    let before := p.next?
    let (line, p) := p.span (! isBreak ·)
    let (first?, p) := match p.lineBreak? with
      | some (c, p) => (some c, p)
      | none => (none, p)
    let (more, p) := scanBlockBreaks column (p.rest.length + 1) p
    if p.column = column && !p.rest.isEmpty then
      let between := blockBreak folded before p.next? first? more
      let (t, last?, tail, p) := scanBlockLines folded column fuel p
      (line ++ between ++ t, last?, tail, p)
    else (line, first?, more, p)

/-- A block scalar, from its opening mark on, inside a block with the margin given. -/
def scanBlock (margin : Nat) (p : Place) : Scans (Token × Place) := do
  let folded := p.next? = some '>'
  let (chomp, indent?, p) ← scanBlockHeader p.step
  let p ← scanLineEnd p
  let least := max margin 1
  let (lead, column, p) := match indent? with
    | some n =>
      let column := least + n - 1
      let (lead, p) := scanBlockBreaks column (p.rest.length + 1) p
      (lead, column, p)
    | none =>
      let (lead, greatest, p) := scanBlockIndent (p.rest.length + 1) 0 p
      (lead, max least greatest, p)
  if p.column = column && !p.rest.isEmpty then
    let (t, last?, tail, p) := scanBlockLines folded column (p.rest.length + 1) p
    let ending := match chomp with
      | .strip => []
      | .clip => last?.toList
      | .keep => last?.toList ++ tail
    return (.scalar false (lead ++ t ++ ending), p)
  else
    return (.scalar false (if chomp = .keep then lead else []), p)

end TreeSieve.Yaml
