import TreeSieve.Number.Integer
import TreeSieve.Yaml.Token

/-!
# Yaml — Node

Documents as trees of tagged nodes.  A plain scalar without a tag gets one by its form
(`Tag.ofPlain`): `yes` is a truth value, `010` an integer, `1:30` an integer in base sixty,
`2024-01-31` a date.
-/

namespace TreeSieve.Yaml

/-- What a node stands for. -/
inductive Tag where
  | null | bool | int | float | binary | timestamp | omap | pairs | set | str | seq | map
  /-- A key whose value is merged into the mapping. -/
  | merge
  /-- A key for the value of a mapping as a whole. -/
  | value
  | other (name : Text)
  deriving DecidableEq, Repr

/-- A node of a document. -/
inductive Node where
  | scalar (tag : Tag) (text : Text)
  | sequence (tag : Tag) (items : List Node)
  | mapping (tag : Tag) (entries : List (Node × Node))
  /-- An alias to a node around it. -/
  | enclosing (isMapping : Bool)

namespace Tag

/-- What the names of the known tags begin with. -/
def home : Text := "tag:yaml.org,2002:".toList

/-- The known tags by name. -/
def names : List (String × Tag) :=
  [("null", null), ("bool", bool), ("int", int), ("float", float), ("binary", binary),
   ("timestamp", timestamp), ("omap", omap), ("pairs", pairs), ("set", set), ("str", str),
   ("seq", seq), ("map", map), ("merge", merge), ("value", value)]

/-- The tag with a name. -/
def ofName (t : Text) : Tag :=
  if home.isPrefixOf t then
    match names.find? fun (n, _) => n.toList = t.drop home.length with
    | some (_, tag) => tag
    | none => other t
  else other t

/-! ### Forms of plain scalars -/

/-- A text without a sign at its start. -/
def unsigned : Text → Text
  | '+' :: t => t
  | '-' :: t => t
  | t => t

/-- Whether a text is a run of digits of a base and underscores, and not empty. -/
def isRun (base : Nat) (t : Text) : Bool :=
  !t.isEmpty && t.all fun c => Number.isBaseDigit base c || c = '_'

/-- Whether a text starts with a digit. -/
def startsDigit : Text → Bool
  | c :: _ => Text.isAsciiDigit c
  | [] => false

/-- Whether a text is a number below sixty, of one or two digits. -/
def isSixtieth (t : Text) : Bool :=
  match t with
  | [c] => Text.isAsciiDigit c
  | [c, d] => Number.isBaseDigit 6 c && Text.isAsciiDigit d
  | _ => false

/-- Whether a text is a whole number in base ten. -/
def isDecimalForm : Text → Bool
  | ['0'] => true
  | c :: cs => c ≠ '0' && Text.isAsciiDigit c && isRun 10 (c :: cs)
  | [] => false

/-- Whether a text has the form of an integer. -/
def isInt (t : Text) : Bool :=
  match unsigned t with
  | '0' :: 'b' :: ds => isRun 2 ds
  | '0' :: 'x' :: ds => isRun 16 ds
  | '0' :: d :: ds => isRun 8 (d :: ds)
  | u =>
    match Text.parts ':' u with
    | first :: rest =>
      isDecimalForm first && (rest.isEmpty || (first ≠ ['0'] && rest.all isSixtieth))
    | [] => false

/-- Whether a text is empty or an exponent with a sign. -/
def isExponent : Text → Bool
  | [] => true
  | e :: s :: ds =>
    (e = 'e' || e = 'E') && (s = '+' || s = '-') && !ds.isEmpty && ds.all Text.isAsciiDigit
  | _ => false

/-- Whether a text is a run of digits and underscores, perhaps an empty one, and then perhaps an
exponent. -/
def isFraction (t : Text) : Bool :=
  isExponent (t.dropWhile fun c => Text.isAsciiDigit c || c = '_')

/-- Whether a text has the form of a number with a point. -/
def isFloat (t : Text) : Bool :=
  let u := unsigned t
  [".inf", ".Inf", ".INF"].any (u = ·.toList) || [".nan", ".NaN", ".NAN"].any (t = ·.toList)
    || match Text.cut? '.' u with
      | none => false
      | some (whole, fraction) =>
        if whole.isEmpty then t.head? = some '.' && startsDigit fraction && isFraction fraction
        else match Text.parts ':' whole with
          | [first] => startsDigit first && isRun 10 first && isFraction fraction
          | first :: rest =>
            startsDigit first && isRun 10 first && rest.all isSixtieth
              && fraction.all fun c => Text.isAsciiDigit c || c = '_'
          | [] => false

end Tag

/-- The parts of a date, with a time of day or without, as they are written. -/
structure Stamp where
  year : Text
  month : Text
  day : Text
  time? : Option (Text × Text × Text × Text × Option (Char × Text × Text))

namespace Stamp

/-- One or two digits at the start of a text, and the rest. -/
def oneOrTwo? : Text → Option (Text × Text)
  | c :: d :: r =>
    if Text.isAsciiDigit c then
      if Text.isAsciiDigit d then some ([c, d], r) else some ([c], d :: r)
    else none
  | [c] => if Text.isAsciiDigit c then some ([c], []) else none
  | [] => none

/-- Exactly two digits at the start of a text, and the rest. -/
def two? (t : Text) : Option (Text × Text) :=
  match oneOrTwo? t with
  | some ([c, d], r) => some ([c, d], r)
  | _ => none

/-- The rest of a text behind a character. -/
def behind? (c : Char) : Text → Option Text
  | d :: r => if d = c then some r else none
  | [] => none

/-- An offset from UTC: its sign with hours and minutes, or `Z`. -/
def zone? : Text → Option (Option (Char × Text × Text))
  | [] => some none
  | ['Z'] => some (some ('Z', [], []))
  | s :: t =>
    if s = '+' || s = '-' then
      match oneOrTwo? t with
      | some (h, []) => some (some (s, h, []))
      | some (h, ':' :: r) =>
        match two? r with
        | some (m, []) => some (some (s, h, m))
        | _ => none
      | _ => none
    else none

/-- Whether a character is a space or a tab. -/
def isGap (c : Char) : Bool := c = ' ' || c = '\t'

/-- A time of day behind a date. -/
def timeOfDay? (t : Text) : Option (Text × Text × Text × Text × Option (Char × Text × Text)) := do
  let t ← match t with
    | c :: r =>
      if c = 'T' || c = 't' then some r else if isGap c then some (r.dropWhile isGap) else none
    | [] => none
  let (h, t) ← oneOrTwo? t
  let (m, t) ← two? (← behind? ':' t)
  let (s, t) ← two? (← behind? ':' t)
  let (fraction, t) := match t with
    | '.' :: r => (r.takeWhile Text.isAsciiDigit, r.dropWhile Text.isAsciiDigit)
    | t => ([], t)
  let gap := t.takeWhile isGap
  let zone ← zone? (t.dropWhile isGap)
  if zone.isNone && !gap.isEmpty then none else return (h, m, s, fraction, zone)

/-- Reads a date, with a time of day or without; a line feed may end the text. -/
def ofText? (t : Text) : Option Stamp := do
  let t := if t.getLast? = some '\n' then t.dropLast else t
  let year := t.take 4
  if year.length ≠ 4 || !year.all Text.isAsciiDigit then none
  else
    let (month, t) ← oneOrTwo? (← behind? '-' (t.drop 4))
    let (day, t) ← oneOrTwo? (← behind? '-' t)
    if t.isEmpty then return ⟨year, month, day, none⟩
    else return ⟨year, month, day, some (← timeOfDay? t)⟩

/-- Whether a date is written in the form that needs no tag: one without a time has two digits for
the month and the day. -/
def isImplicit (s : Stamp) : Bool :=
  s.time?.isSome || (s.month.length = 2 && s.day.length = 2)

end Stamp

namespace Tag

/-- The words for truth values. -/
def boolWords : List String :=
  ["yes", "Yes", "YES", "no", "No", "NO", "true", "True", "TRUE", "false", "False", "FALSE",
   "on", "On", "ON", "off", "Off", "OFF"]

/-- The words for null. -/
def nullWords : List String := ["", "~", "null", "Null", "NULL"]

/-- The tag that a plain scalar gets by its form. -/
def ofPlain (t : Text) : Tag :=
  if boolWords.any (t = ·.toList) then bool
  else if isFloat t then float
  else if isInt t then int
  else if t = ['<', '<'] then merge
  else if nullWords.any (t = ·.toList) then null
  else if (Stamp.ofText? t).any (·.isImplicit) then timestamp
  else if t = ['='] then value
  else str

end Tag

end TreeSieve.Yaml
