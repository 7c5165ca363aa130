import TreeSieve.Number.Integer
import TreeSieve.Regex.Problem
import TreeSieve.Regex.Program
import TreeSieve.Text.Identifier
import TreeSieve.Text.Name

/-!
# Regex — Reader

Reading a pattern.  The reader goes through the pattern once from left to right and keeps what it
learns about groups (`Groups`).  A character with a backslash before it counts as one mark wherever
marks are looked for, and the place of a mistake is counted from the start of the pattern.

`readAlternatives` and `readSequence` call each other and count down fuel, of which `Regex.read`
gives more than the pattern can use up.
-/

namespace TreeSieve.Regex

/-- What is known of the groups of a pattern while it is read. -/
structure Groups where
  /-- How many groups have been opened. -/
  count : Nat := 0
  /-- The widths of the groups that are closed. -/
  widths : List (Nat × Nat × Nat) := []
  names : List (Text × Nat) := []
  /-- The number of the first group opened inside the outermost look behind around. -/
  behindFrom? : Option Nat := none
  /-- Group numbers referred to before they need exist, with their places. -/
  promised : List (Nat × Nat) := []
  /-- The switches of the whole pattern. -/
  flags : Flags := {}

/-- The outcome of reading a part of a pattern. -/
abbrev Reads (α : Type) := Except Failure α

/-- A mistake noticed `back` characters before the unread rest of a pattern of `n` characters. -/
def mistakeAt {α : Type} (n : Nat) (rest : Text) (back : Nat) (p : Problem) : Reads α :=
  .error (.mistake ⟨p, some (n - rest.length - back)⟩)

/-- A mistake noticed at the place `i`. -/
def mistakeIn {α : Type} (i : Nat) (p : Problem) : Reads α := .error (.mistake ⟨p, some i⟩)

/-- A backslash that ends the pattern. -/
def dangling {α : Type} (n : Nat) : Reads α := mistakeIn (n - 1) .danglingEscape

namespace Groups

/-- Whether a group is closed. -/
def isClosed (g : Groups) (i : Nat) : Bool := i = 0 || (g.widths.lookup i).isSome

/-- Checks that a reference to a group from inside a look behind points outside it. -/
def checkBehind (g : Groups) (n : Nat) (rest : Text) (i : Nat) : Reads Unit :=
  match g.behindFrom? with
  | none => .ok ()
  | some first =>
    if !(i ≤ g.count && g.isClosed i && i ≠ 0) then mistakeAt n rest 0 .openGroup
    else if first ≤ i then mistakeAt n rest 0 .openedInBehind
    else .ok ()

/-- Opens a group, with a name or without. -/
def opened (g : Groups) (n : Nat) (rest : Text) (name? : Option Text) : Reads (Nat × Groups) :=
  let i := g.count + 1
  match name? with
  | none => .ok (i, { g with count := i })
  | some name =>
    match g.names.lookup name with
    | some earlier => mistakeAt n rest (name.length + 1) (.redefinedGroup name i earlier)
    | none => .ok (i, { g with count := i, names := (name, i) :: g.names })

/-- Closes a group. -/
def closed (g : Groups) (i : Nat) (body : Node) : Groups :=
  { g with widths := (i, body.width g.widths) :: g.widths }

end Groups

/-! ### Escapes -/

/-- The characters with a short escape. -/
def shortEscape? : Char → Option Nat
  | 'a' => some 7
  | 'f' => some 12
  | 'n' => some 10
  | 'r' => some 13
  | 't' => some 9
  | 'v' => some 11
  | '\\' => some 92
  | _ => none

/-- The classes with an escape. -/
def classEscape? : Char → Option SetItem
  | 'd' => some (.cls .digit false)
  | 'D' => some (.cls .digit true)
  | 's' => some (.cls .space false)
  | 'S' => some (.cls .space true)
  | 'w' => some (.cls .word false)
  | 'W' => some (.cls .word true)
  | _ => none

/-- The conditions on a position with an escape. -/
def anchorEscape? : Char → Option Anchor
  | 'A' => some .textStart
  | 'Z' => some .textEnd
  | 'b' => some .wordEdge
  | 'B' => some .notWordEdge
  | _ => none

/-- At most `k` characters satisfying `p` from the start, and the rest. -/
def upTo (k : Nat) (p : Char → Bool) (t : Text) : Text × Text :=
  let ds := (t.take k).takeWhile p
  (ds, t.drop ds.length)

/-- The text up to a mark, and the rest behind it; `what` is the name of what is sought. -/
def untilMark (n : Nat) (mark : Char) (what : String) : (found : Text) → Text → Reads (Text × Text)
  | found, [] =>
    if found.isEmpty then mistakeAt n [] 0 (.missingName what.toList)
    else mistakeAt n [] found.length (.unterminatedName mark)
  | _, ['\\'] => dangling n
  | found, '\\' :: c :: rest => untilMark n mark what (c :: '\\' :: found) rest
  | found, c :: rest =>
    if c = mark then
      if found.isEmpty then mistakeAt n rest 1 (.missingName what.toList)
      else .ok (found.reverse, rest)
    else untilMark n mark what (c :: found) rest

/-- A code point of exactly `k` hexadecimal digits; `c` is the letter of the escape. -/
def hexEscape (n : Nat) (c : Char) (k : Nat) (rest : Text) : Reads (Nat × Text) :=
  let (ds, rest) := upTo k (Number.isBaseDigit 16) rest
  let e := '\\' :: c :: ds
  if ds.length ≠ k then mistakeAt n rest e.length (.incompleteEscape e)
  else
    let code := Number.ofDigits 16 ds
    if code ≤ 0x10FFFF then .ok (code, rest) else mistakeAt n rest e.length (.badEscape e)

/-- A code point by its name in braces. -/
def namedEscape (n : Nat) (rest : Text) : Reads (Nat × Text) :=
  match rest with
  | '\x7b' :: rest => do
    let (name, rest) ← untilMark n '\x7d' "character name" [] rest
    match Text.ofName? name with
    | some code => return (code, rest)
    | none => mistakeAt n rest (name.length + 4) (.unknownCharName name)
  | _ => mistakeAt n rest 0 .missingBrace

/-- The escapes that stand for one code point, inside sets and outside; `none` when the character
`c` behind the backslash begins none of them. -/
def codeEscape (n : Nat) (c : Char) (rest : Text) : Option (Reads (Nat × Text)) :=
  match c with
  | 'x' => some (hexEscape n c 2 rest)
  | 'u' => some (hexEscape n c 4 rest)
  | 'U' => some (hexEscape n c 8 rest)
  | 'N' => some (namedEscape n rest)
  | _ => (shortEscape? c).map fun code => .ok (code, rest)

/-- A character that an escape leaves as it is; a letter or digit is none. -/
def plainEscape (n : Nat) (c : Char) (rest : Text) : Reads (Nat × Text) :=
  if Text.isAsciiLetter c || Text.isAsciiDigit c then mistakeAt n rest 2 (.badEscape ['\\', c])
  else .ok (c.toNat, rest)

/-- A code point by its number in base eight. -/
def octalEscape (n : Nat) (ds rest : Text) : Reads (Nat × Text) :=
  let code := Number.ofDigits 8 ds
  let e := '\\' :: ds
  if 0o377 < code then mistakeAt n rest e.length (.octalTooLarge e) else .ok (code, rest)

/-- An escape inside a set, behind its backslash. -/
def setEscape (n : Nat) (c : Char) (rest : Text) : Reads (SetItem × Text) :=
  match classEscape? c with
  | some item => .ok (item, rest)
  | none =>
    let code : Reads (Nat × Text) :=
      if c = 'b' then .ok (8, rest)
      else match codeEscape n c rest with
        | some r => r
        | none =>
          if Number.isBaseDigit 8 c then
            let (ds, rest) := upTo 2 (Number.isBaseDigit 8) rest
            octalEscape n (c :: ds) rest
          else plainEscape n c rest
    code.map fun (code, rest) => (.one code, rest)

/-- A reference to a group by its number, written with the digits `ds`. -/
def numberedReference (g : Groups) (n : Nat) (ds rest : Text) : Reads (Node × Text) := do
  let i := Number.ofDigits 10 ds
  if g.count < i then mistakeAt n rest ds.length (.invalidGroup i)
  else if !g.isClosed i then mistakeAt n rest (ds.length + 1) .openGroup
  else
    g.checkBehind n rest i
    return (.same i, rest)

/-- An escape outside sets, behind its backslash. -/
def nodeEscape (g : Groups) (n : Nat) (c : Char) (rest : Text) : Reads (Node × Text) :=
  match anchorEscape? c, classEscape? c, codeEscape n c rest with
  | some a, _, _ => .ok (.anchor a, rest)
  | none, some item, _ => .ok (.set false [item], rest)
  | none, none, some r => r.map fun (code, rest) => (.literal code, rest)
  | none, none, none =>
    let octal (ds rest : Text) : Reads (Node × Text) :=
      (octalEscape n ds rest).map fun (code, rest) => (.literal code, rest)
    if c = '0' then
      let (ds, rest) := upTo 2 (Number.isBaseDigit 8) rest
      octal (c :: ds) rest
    else if Text.isAsciiDigit c then
      match rest with
      | d :: rest' =>
        if Text.isAsciiDigit d then
          match rest' with
          | e :: rest'' =>
            if [c, d, e].all (Number.isBaseDigit 8) then octal [c, d, e] rest''
            else numberedReference g n [c, d] rest'
          | [] => numberedReference g n [c, d] rest'
        else numberedReference g n [c] rest
      | [] => numberedReference g n [c] rest
    else (plainEscape n c rest).map fun (code, rest) => (.literal code, rest)

/-! ### Sets -/

/-- One mark of a set: the text of the mark, the member it stands for, and the rest. -/
def setMark (n start : Nat) : Text → Reads (Text × SetItem × Text)
  | [] => mistakeIn start .unterminatedSet
  | ['\\'] => dangling n
  | '\\' :: c :: rest => (setEscape n c rest).map fun (item, rest) => (['\\', c], item, rest)
  | c :: rest => .ok ([c], .one c.toNat, rest)

/-- The members of a set that begins at `start`, up to its closing bracket; `found` are the members
read so far, the last one first. -/
def readSet (n start : Nat) : (fuel : Nat) → (found : List SetItem) → Text → Reads (List SetItem × Text)
  | 0, _, _ => mistakeIn start .unterminatedSet
  | fuel + 1, found, rest =>
    if rest.head? = some ']' && !found.isEmpty then .ok (found.reverse, rest.drop 1)
    else do
      let (first, item, rest) ← setMark n start rest
      match rest with
      | '-' :: ']' :: rest => return ((.one '-'.toNat :: item :: found).reverse, rest)
      | '-' :: rest =>
        let (last, item', rest) ← setMark n start rest
        match item, item' with
        | .one a, .one b =>
          if a ≤ b then readSet n start fuel (.range a b :: found) rest
          else mistakeAt n rest (first.length + 1 + last.length) (.badRange first last)
        | _, _ => mistakeAt n rest (first.length + 1 + last.length) (.badRange first last)
      | _ => readSet n start fuel (item :: found) rest

/-- The expression of a set. A set of one character is that character. -/
def setNode (negated : Bool) (items : List SetItem) : Node :=
  match items.eraseDups with
  | [.one code] => if negated then .notLiteral code else .literal code
  | items => .set negated items

/-- A set behind its opening bracket. -/
def readSetNode (n : Nat) (rest : Text) : Reads (Node × Text) := do
  let start := n - rest.length - 1
  let (negated, rest) := match rest with
    | '^' :: r => (true, r)
    | r => (false, r)
  let (items, rest) ← readSet n start (rest.length + 1) [] rest
  return (setNode negated items, rest)

/-! ### Repetitions -/

/-- The number of rounds written with digits. -/
def roundNumber (ds : Text) : Reads Nat :=
  if Number.digitLimit < ds.length then .error (.tooManyDigits ds.length)
  else
    let k := Number.ofDigits 10 ds
    if Node.roundLimit ≤ k then .error .tooManyRounds else .ok k

/-- The bounds of a repetition behind its first character `c`, which begins one; `none` when a brace
is an ordinary character after all. -/
def readBounds (n : Nat) (c : Char) (rest : Text) : Reads (Option (Nat × Option Nat × Text)) :=
  match c with
  | '?' => .ok (some (0, some 1, rest))
  | '*' => .ok (some (0, none, rest))
  | '+' => .ok (some (1, none, rest))
  | _ =>
    let lo := rest.takeWhile Text.isAsciiDigit
    let afterLo := rest.dropWhile Text.isAsciiDigit
    let (hi, afterHi) := match afterLo with
      | ',' :: r => (r.takeWhile Text.isAsciiDigit, r.dropWhile Text.isAsciiDigit)
      | r => (lo, r)
    match rest.head?, afterHi with
    | some '\x7d', _ => .ok none
    | _, ['\x7d', '\\'] => dangling n
    | _, '\x7d' :: after => do
      let least ← if lo.isEmpty then pure 0 else roundNumber lo
      if hi.isEmpty then return some (least, none, after)
      else
        let most ← roundNumber hi
        if most < least then mistakeIn (n - rest.length) .leastAboveMost
        else return some (least, some most, after)
    | _, _ => .ok none

/-- How a repetition chooses, by the mark behind it. -/
def readGreed : Text → Greed × Text
  | '?' :: rest => (.lazy, rest)
  | '+' :: rest => (.possessive, rest)
  | rest => (.greedy, rest)

/-- A part of a sequence, as repetitions see it. -/
inductive Part where
  /-- A condition on a position, which cannot be repeated. -/
  | position (a : Anchor)
  /-- A repetition, which cannot be repeated again. -/
  | repeated (n : Node)
  | other (n : Node)

/-- The expression of a part. -/
def Part.node : Part → Node
  | position a => .anchor a
  | repeated n | other n => n

/-! ### Groups -/

/-- The switch with a letter. -/
def flag? : Char → Option Flags
  | 'i' => some { ignoreCase := true }
  | 'm' => some { multiline := true }
  | 's' => some { dotAll := true }
  | 'x' => some { verbose := true }
  | 'a' => some { ascii := true }
  | 'u' => some { unicode := true }
  | 't' => some { template := true }
  | _ => none

/-- Whether a letter names a switch; one of them is refused. -/
def isFlagLetter (c : Char) : Bool := c = 'L' || (flag? c).isSome

/-- The length of a mark that begins a text. -/
def markLength : Text → Nat
  | '\\' :: _ :: _ => 2
  | _ => 1

/-- The text behind its first mark. -/
def afterMark (t : Text) : Text := t.drop (markLength t)

/-- Which problem an unexpected mark among switches is, when a letter is always an unknown switch. -/
def flagProblem (c : Char) (rest : Text) (otherwise : Problem) : Problem :=
  if markLength (c :: rest) = 1 && Text.isAlnum c && !Text.isDigit c then .unknownFlag else otherwise

/-- The switches turned on, up to the mark that ends them, from a letter `c` on. -/
def readOnFlags (n : Nat) : (on : Flags) → Char → Text → Reads (Flags × Char × Text)
  | on, c, rest =>
    match flag? c with
    | none => mistakeAt n rest 0 .localeFlag
    | some f =>
      let on := on.union f
      if (f.ascii || f.unicode) && on.ascii && on.unicode then mistakeAt n rest 0 .alphabetsClash
      else match rest with
        | [] => mistakeAt n [] 0 .missingFlagEnd
        | d :: rest' =>
          if d = ')' || d = '-' || d = ':' then .ok (on, d, rest')
          else if isFlagLetter d then readOnFlags n on d rest'
          else mistakeAt n (afterMark rest) (markLength rest) (flagProblem d rest' .missingFlagEnd)

/-- The switches turned off, up to the colon, from a letter `c` on. -/
def readOffFlags (n : Nat) : (off : Flags) → Char → Text → Reads (Flags × Text)
  | off, c, rest =>
    match flag? c with
    | none => mistakeAt n rest 0 .turnOffAlphabet
    | some f =>
      if f.ascii || f.unicode then mistakeAt n rest 0 .turnOffAlphabet
      else match rest with
        | [] => mistakeAt n [] 0 .missingColon
        | d :: rest' =>
          if d = ':' then .ok (off.union f, rest')
          else if isFlagLetter d then readOffFlags n (off.union f) d rest'
          else mistakeAt n (afterMark rest) (markLength rest) (flagProblem d rest' .missingColon)

/-- What a group is, by the marks behind its opening parenthesis. -/
inductive GroupHead where
  | capture (name? : Option Text)
  | plain
  | atomic
  | switches (on off : Flags)
  | ahead (negated : Bool)
  | behind (negated : Bool)
  | given (index : Nat)
  /-- A group that is complete: a comment. -/
  | comment
  /-- A group that is complete: a reference by name. -/
  | reference (index : Nat)
  /-- A group that is complete: switches of the whole pattern. -/
  | global (on : Flags)

/-- The switches of a group, from the first mark `c` on. -/
def readFlagHead (n : Nat) (c : Char) (rest : Text) : Reads (GroupHead × Text) := do
  let (on, c, rest) ← if c = '-' then pure ({}, '-', rest) else readOnFlags n {} c rest
  if c = ')' then return (.global on, rest)
  else if on.template then mistakeAt n rest 1 .turnOnGlobal
  else
    let (off, rest) ←
      if c = '-' then
        match rest with
        | [] => mistakeAt n [] 0 .missingFlag
        | d :: rest' =>
          if isFlagLetter d then readOffFlags n {} d rest'
          else mistakeAt n (afterMark rest) (markLength rest) (flagProblem d rest' .missingFlag)
      else pure ({}, rest)
    if off.template then mistakeAt n rest 1 .turnOffGlobal
    else if on.meet off ≠ {} then mistakeAt n rest 1 .onAndOff
    else return (.switches on off, rest)

/-- A comment behind its mark, in a group that begins at `start`. -/
def skipComment (n start : Nat) : Text → Reads Text
  | [] => mistakeIn start .unterminatedComment
  | ['\\'] => dangling n
  | '\\' :: _ :: rest => skipComment n start rest
  | ')' :: rest => .ok rest
  | _ :: rest => skipComment n start rest

/-- The condition of a group, behind its parenthesis. -/
def readCondition (g : Groups) (n : Nat) (rest : Text) : Reads (Nat × Groups × Text) := do
  let (name, rest) ← untilMark n ')' "group name" [] rest
  let back := name.length + 1
  let (i, g) ←
    if Text.isIdentifier name then
      match g.names.lookup name with
      | some i => pure (i, g)
      | none => mistakeAt n rest back (.unknownGroupName name)
    else match Number.readInt? name with
      | some (.ofNat 0) => mistakeAt n rest back .badGroupNumber
      | some (.ofNat i) =>
        if 1073741823 ≤ i then mistakeAt n rest back (.invalidGroup i)
        else if (g.promised.lookup i).isSome then pure (i, g)
        else pure (i, { g with promised := g.promised ++ [(i, n - rest.length - back)] })
      | _ => mistakeAt n rest back (.badGroupName name)
  g.checkBehind n rest i
  return (i, g, rest)

/-- The head of a group that begins at `start`, behind its opening parenthesis. -/
def readHead (g : Groups) (n start : Nat) (rest : Text) : Reads (GroupHead × Groups × Text) :=
  match rest with
  | '?' :: [] => mistakeAt n [] 0 .unexpectedEnd
  | '?' :: 'P' :: rest =>
    match rest with
    | '<' :: rest => do
      let (name, rest) ← untilMark n '>' "group name" [] rest
      if Text.isIdentifier name then return (.capture (some name), g, rest)
      else mistakeAt n rest (name.length + 1) (.badGroupName name)
    | '=' :: rest => do
      let (name, rest) ← untilMark n ')' "group name" [] rest
      if !Text.isIdentifier name then mistakeAt n rest (name.length + 1) (.badGroupName name)
      else match g.names.lookup name with
        | none => mistakeAt n rest (name.length + 1) (.unknownGroupName name)
        | some i =>
          if !g.isClosed i then mistakeAt n rest (name.length + 1) .openGroup
          else
            g.checkBehind n rest i
            return (.reference i, g, rest)
    | [] => mistakeAt n [] 0 .unexpectedEnd
    | _ :: _ =>
      let k := markLength rest
      mistakeAt n (rest.drop k) (k + 2) (.unknownExtension ('P' :: rest.take k))
  | '?' :: ':' :: rest => .ok (.plain, g, rest)
  | '?' :: '#' :: rest => (skipComment n start rest).map fun rest => (.comment, g, rest)
  | '?' :: '=' :: rest => .ok (.ahead false, g, rest)
  | '?' :: '!' :: rest => .ok (.ahead true, g, rest)
  | '?' :: '<' :: rest =>
    match rest with
    | '=' :: rest => .ok (.behind false, g, rest)
    | '!' :: rest => .ok (.behind true, g, rest)
    | [] => mistakeAt n [] 0 .unexpectedEnd
    | _ :: _ =>
      let k := markLength rest
      mistakeAt n (rest.drop k) (k + 2) (.unknownExtension ('<' :: rest.take k))
  | '?' :: '(' :: rest => (readCondition g n rest).map fun (i, g, rest) => (.given i, g, rest)
  | '?' :: '>' :: rest => .ok (.atomic, g, rest)
  | '?' :: c :: rest =>
    if isFlagLetter c || c = '-' then
      (readFlagHead n c rest).map fun (head, rest) => (head, g, rest)
    else
      let mark := c :: rest
      let k := markLength mark
      mistakeAt n (mark.drop k) (k + 1) (.unknownExtension (mark.take k))
  | rest => .ok (.capture none, g, rest)

/-- The rest behind the closing parenthesis of a group that began at `start`. -/
def closing (start : Nat) : Text → Reads Text
  | ')' :: rest => .ok rest
  | _ => mistakeIn start .unterminatedGroup

/-- The rest behind a comment in a pattern with blanks, which ends with its line. -/
def afterLine (n : Nat) : Text → Reads Text
  | [] => .ok []
  | '\n' :: rest => .ok rest
  | ['\\'] => dangling n
  | '\\' :: _ :: rest => afterLine n rest
  | _ :: rest => afterLine n rest

/-! ### Expressions -/

mutual

/-- Alternatives up to the end of the group around; `found` are the alternatives read so far, the
last one first. `top` says that no group is around. -/
def readAlternatives (n : Nat) : (fuel : Nat) → (top verbose : Bool) → (found : List Node) → Groups →
    Text → Reads (Node × Groups × Text)
  | 0, _, _, _, _, rest => mistakeAt n rest 0 .tooDeep
  | fuel + 1, top, verbose, found, g, rest => do
    let (node, g, rest) ← readSequence n fuel (top && found.isEmpty) verbose [] g rest
    match rest with
    | '|' :: rest =>
      let verbose := if top then g.flags.verbose else verbose
      readAlternatives n fuel top verbose (node :: found) g rest
    | rest => return (.alternatives (node :: found).reverse, g, rest)

/-- A sequence up to the next alternative or the end of the group around; `parts` are the parts
read so far, the last one first. -/
def readSequence (n : Nat) : (fuel : Nat) → (first verbose : Bool) → (parts : List Part) → Groups →
    Text → Reads (Node × Groups × Text)
  | 0, _, _, _, _, rest => mistakeAt n rest 0 .tooDeep
  | fuel + 1, first, verbose, parts, g, rest =>
    let done := .ok (Node.sequence (parts.reverse.map Part.node), g, rest)
    match rest with
    | [] => done
    | ['\\'] => dangling n
    | '\\' :: c :: rest =>
      (nodeEscape g n c rest).bind fun (node, rest) =>
        let part := match node with
          | .anchor a => Part.position a
          | node => .other node
        readSequence n fuel first verbose (part :: parts) g rest
    | c :: rest =>
      if c = '|' || c = ')' then done
      else if verbose && Text.isAsciiBlank c then readSequence n fuel first verbose parts g rest
      else if verbose && c = '#' then
        (afterLine n rest).bind fun rest => readSequence n fuel first verbose parts g rest
      else if c = '[' then do
        let (node, rest) ← readSetNode n rest
        readSequence n fuel first verbose (.other node :: parts) g rest
      else if c = '*' || c = '+' || c = '?' || c = '\x7b' then do
        let place := n - rest.length
        match ← readBounds n c rest with
        | none => readSequence n fuel first verbose (.other (.literal c.toNat) :: parts) g rest
        | some (least, most?, rest) =>
          match parts with
          | [] => mistakeIn (place - 1) .nothingToRepeat
          | .position _ :: _ => mistakeIn (place - 1) .nothingToRepeat
          | .repeated _ :: _ => mistakeIn (place - 1) .multipleRepeat
          | .other node :: parts =>
            let (greed, rest) := readGreed rest
            readSequence n fuel first verbose
              (.repeated (.rounds least most? greed node) :: parts) g rest
      else if c = '.' then readSequence n fuel first verbose (.other .any :: parts) g rest
      else if c = '^' then
        readSequence n fuel first verbose (.position .lineStart :: parts) g rest
      else if c = '$' then readSequence n fuel first verbose (.position .lineEnd :: parts) g rest
      else if c = '(' then do
        let start := n - rest.length - 1
        let (head, g, rest) ← readHead g n start rest
        match head with
        | .comment => readSequence n fuel first verbose parts g rest
        | .reference i => readSequence n fuel first verbose (.other (.same i) :: parts) g rest
        | .global on =>
          if !first || !parts.isEmpty then mistakeIn start .lateGlobalFlags
          else
            let g := { g with flags := g.flags.union on }
            readSequence n fuel first g.flags.verbose parts g rest
        | .ahead negated =>
          let (body, g, rest) ← readAlternatives n fuel false verbose [] g rest
          let rest ← closing start rest
          readSequence n fuel first verbose (.other (.ahead negated body) :: parts) g rest
        | .behind negated =>
          let outer := g.behindFrom?
          let g := { g with behindFrom? := some (outer.getD (g.count + 1)) }
          let (body, g, rest) ← readAlternatives n fuel false verbose [] g rest
          let g := { g with behindFrom? := outer }
          let rest ← closing start rest
          let (least, greatest) := body.width g.widths
          readSequence n fuel first verbose
            (.other (.behind negated least greatest body) :: parts) g rest
        | .given i =>
          let (yes, g, rest) ← readSequence n fuel false verbose [] g rest
          match rest with
          | '|' :: rest =>
            let (no, g, rest) ← readSequence n fuel false verbose [] g rest
            match rest with
            | '|' :: _ => mistakeAt n rest 0 .tooManyBranches
            | _ =>
              let rest ← closing start rest
              readSequence n fuel first verbose (.other (.given i yes no) :: parts) g rest
          | rest =>
            let rest ← closing start rest
            readSequence n fuel first verbose (.other (.given i yes .empty) :: parts) g rest
        | .capture name? =>
          let (i, g) ← g.opened n rest name?
          let (body, g, rest) ← readAlternatives n fuel false verbose [] g rest
          let rest ← closing start rest
          readSequence n fuel first verbose (.other (.group i body) :: parts) (g.closed i body) rest
        | .plain =>
          let (body, g, rest) ← readAlternatives n fuel false verbose [] g rest
          let rest ← closing start rest
          readSequence n fuel first verbose (.other body :: parts) g rest
        | .atomic =>
          let (body, g, rest) ← readAlternatives n fuel false verbose [] g rest
          let rest ← closing start rest
          readSequence n fuel first verbose (.other (.atomic body) :: parts) g rest
        | .switches on off =>
          let inner := (verbose || on.verbose) && !off.verbose
          let (body, g, rest) ← readAlternatives n fuel false inner [] g rest
          let rest ← closing start rest
          readSequence n fuel first verbose (.other (.switched on off body) :: parts) g rest
      else readSequence n fuel first verbose (.other (.literal c.toNat) :: parts) g rest

end

/-- Whether a look behind in the expression has a body of one width. -/
def behindFixed : Node → Bool
  | .behind _ least greatest _ => least = greatest
  | _ => true

/-- Whether an expression is no repetition. -/
def noRounds : Node → Bool
  | .rounds .. => false
  | _ => true

/-- Reads a pattern under the switches given. -/
def read (flags : Flags) (pattern : Text) : Reads Pattern := do
  let n := pattern.length
  let (node, g, rest) ←
    readAlternatives n (3 * n + 5) true flags.verbose [] { flags := flags } pattern
  if g.flags.ascii && g.flags.unicode then .error .twoAlphabets
  else if !rest.isEmpty then mistakeAt n rest 0 .unbalanced
  else match g.promised.find? fun (i, _) => g.count < i with
    | some (i, place) => mistakeIn place (.invalidGroup i)
    | none =>
      if !node.all behindFixed then .error (.mistake ⟨.variableBehind, none⟩)
      else if g.flags.template && !node.all noRounds then .error (.mistake ⟨.templateRounds, none⟩)
      else return .ofNode g.flags g.count g.widths node

end TreeSieve.Regex
