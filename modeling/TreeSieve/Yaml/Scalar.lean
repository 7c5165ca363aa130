import TreeSieve.Text.Casing
import TreeSieve.Yaml.Lexeme
import TreeSieve.Yaml.Node

/-!
# Yaml — Scalar

The values of scalars by their tags.  Numerals may hold underscores, have a base by how they start,
and stand in base sixty when they hold colons; dates must exist.
-/

namespace TreeSieve.Yaml

/-- A fault in the text of a value. -/
def faulty {α : Type} (f : ValueFault) : Scans α := .error (.value f)

/-- The value of a truth word, in any case. -/
def boolValue (t : Text) : Scans Value :=
  let w := Text.lower t
  if ["yes", "true", "on"].any (w = ·.toList) then .ok (.bool true)
  else if ["no", "false", "off"].any (w = ·.toList) then .ok (.bool false)
  else faulty (.unknownWord w)

/-! ### Numbers -/

/-- The number of a numeral in base two, eight or sixteen. -/
def baseNumber (base : Nat) (t : Text) : Scans Int :=
  match Number.readBase? base t with
  | some n => .ok n
  | none => faulty (.badNumeral base t)

/-- The number of a numeral in base ten. -/
def tenNumber (t : Text) : Scans Int :=
  let digits := (Text.dropAround Text.isSpace t).countP Text.isDecimal
  match Number.readInt? t with
  | some n => .ok n
  | none => faulty (if Number.digitLimit < digits then .hugeNumeral digits else .badNumeral 10 t)

/-- Whether a numeral starts with a minus sign, and the numeral without its sign. -/
def splitSign : Text → Bool × Text
  | '-' :: t => (true, t)
  | '+' :: t => (false, t)
  | t => (false, t)

/-- The value of an integer numeral. -/
def intValue (t : Text) : Scans Value := do
  let (negative, u) := splitSign (t.filter (· ≠ '_'))
  let n : Int ← match u with
    | [] => faulty .emptyNumeral
    | ['0'] => pure 0
    | '0' :: 'b' :: ds => baseNumber 2 ds
    | '0' :: 'x' :: ds => baseNumber 16 ds
    | '0' :: _ => baseNumber 8 u
    | u => do
      let parts ← (Text.parts ':' u).mapM tenNumber
      pure (parts.foldl (fun n d => n * 60 + d) 0)
  return .int (if negative then -n else n)

/-- The number of a decimal with digits, a point and an exponent, of which only digits must be
there. -/
def plainFloat? (negative : Bool) (t : Text) : Option Binary64 :=
  let whole := t.takeWhile Text.isAsciiDigit
  let (fraction, rest) := match t.dropWhile Text.isAsciiDigit with
    | '.' :: r => (r.takeWhile Text.isAsciiDigit, r.dropWhile Text.isAsciiDigit)
    | r => ([], r)
  let exponent? : Option Int := match rest with
    | [] => some 0
    | e :: r =>
      let (below, ds) := splitSign r
      if (e = 'e' || e = 'E') && !ds.isEmpty && ds.all Text.isAsciiDigit then
        let n : Int := Number.ofDigits 10 ds
        some (if below then -n else n)
      else none
  if whole.isEmpty && fraction.isEmpty then none
  else exponent?.map fun e =>
    Binary64.ofDecimal negative (Number.ofDigits 10 (whole ++ fraction)) (e - fraction.length)

/-- The number of a decimal, an infinity or no number. -/
def floatNumber (t : Text) : Scans Binary64 :=
  let (negative, u) := splitSign ((Text.dropAround Text.isSpace t).map Number.plainDigit)
  let w := Text.lower u
  if w = "inf".toList || w = "infinity".toList then .ok (.infinite negative)
  else if w = "nan".toList then .ok .nan
  else match plainFloat? negative u with
    | some x => .ok x
    | none => faulty (.badFloat t)

/-- The number of digits in base sixty, the last one first, each times `base`. -/
def sixtieths (base : Nat) : List Binary64 → Binary64 → Binary64
  | [], sum => sum
  | x :: xs, sum => sixtieths (base * 60) xs (sum.add (x.scale base))

/-- The greatest number of places of a numeral in base sixty with a point: the weights of further
places are beyond all decimals. -/
def placeLimit : Nat := 174

/-- The value of a numeral with a point. -/
def floatValue (t : Text) : Scans Value := do
  let (negative, u) := splitSign (Text.lower (t.filter (· ≠ '_')))
  if t.all (· = '_') then faulty .emptyNumeral
  else
    let x ←
      if u = ".inf".toList then pure (Binary64.infinite false)
      else if u = ".nan".toList then pure Binary64.nan
      else if u.contains ':' then do
        let parts ← (Text.parts ':' u).mapM floatNumber
        if placeLimit < parts.length then faulty .hugePlace
        else pure (sixtieths 1 parts.reverse (.ofInt 0))
      else floatNumber u
    return .float (if negative then x.negate else x)

/-! ### Dates -/

/-- The number of days of a month. -/
def daysIn (year month : Nat) : Nat :=
  if month = 2 then
    if year % 4 = 0 && (year % 100 ≠ 0 || year % 400 = 0) then 29 else 28
  else if [4, 6, 9, 11].contains month then 30
  else 31

/-- Checks that a date exists. -/
def checkDate (y m d : Nat) : Scans Unit :=
  if y = 0 then faulty (.year y)
  else if m = 0 || 12 < m then faulty .month
  else if d = 0 || daysIn y m < d then faulty .day
  else .ok ()

/-- Checks that a time of day exists. -/
def checkTime (h m s : Nat) : Scans Unit :=
  if 23 < h then faulty .hour else if 59 < m then faulty .minute
  else if 59 < s then faulty .second else .ok ()

/-- The offset of a zone in minutes, which is less than a day. -/
def zoneOffset : Option (Char × Text × Text) → Scans (Option Int)
  | none => .ok none
  | some (sign, h, m) =>
    let size : Int := (Number.ofDigits 10 h * 60 + Number.ofDigits 10 m : Nat)
    let minutes := if sign = '-' then -size else size
    if 1440 ≤ size then faulty (.offset minutes) else .ok (some minutes)

/-- The value of a date or a moment. -/
def stampValue (s : Stamp) : Scans Value := do
  let n := Number.ofDigits 10
  let (y, m, d) := (n s.year, n s.month, n s.day)
  match s.time? with
  | none =>
    checkDate y m d
    return .date y m d
  | some (h, mi, sec, fraction, zone?) =>
    let offset ← zoneOffset zone?
    checkDate y m d
    checkTime (n h) (n mi) (n sec)
    let us := if fraction.isEmpty then 0
      else n ((fraction.take 6) ++ List.replicate (6 - fraction.length) '0')
    return .moment y m d (n h) (n mi) (n sec) us offset

/-! ### Bytes -/

/-- The value of a digit of base sixty-four. -/
def digit64? (c : Char) : Option Nat :=
  if 'A' ≤ c && c ≤ 'Z' then some (c.toNat - 65)
  else if 'a' ≤ c && c ≤ 'z' then some (c.toNat - 71)
  else if '0' ≤ c && c ≤ '9' then some (c.toNat + 4)
  else if c = '+' then some 62
  else if c = '/' then some 63
  else none

/-- The bytes of digits of base sixty-four; `held` are the digits of the group of four begun, and
`pads` counts the padding behind them. Other characters are skipped; `none` when the last group is not
complete. -/
def decode64 : (held : List Nat) → (pads : Nat) → Text → Option (List UInt8)
  | held, _, [] => if held.isEmpty then some [] else none
  | held, pads, c :: cs =>
    if c = '=' then
      let pads := if 2 ≤ held.length then pads + 1 else pads
      if 2 ≤ held.length && 4 ≤ held.length + pads then
        match held with
        | [a, b] => some [UInt8.ofNat (a * 4 + b / 16)]
        | [a, b, d] => some [UInt8.ofNat (a * 4 + b / 16), UInt8.ofNat (b * 16 + d / 4)]
        | _ => some []
      else decode64 held pads cs
    else match digit64? c, held with
      | none, _ => decode64 held pads cs
      | some d, [x, y, z] =>
        (decode64 [] 0 cs).map fun bs =>
          UInt8.ofNat (x * 4 + y / 16) :: UInt8.ofNat (y * 16 + z / 4) :: UInt8.ofNat (z * 64 + d) :: bs
      | some d, held => decode64 (held ++ [d]) 0 cs

/-- The value of bytes in base sixty-four. -/
def binaryValue (t : Text) : Scans Value :=
  if t.any fun c => 127 < c.toNat then malformed
  else match decode64 [] 0 t with
    | some bs => .ok (.bytes bs)
    | none => malformed

/-! ### Tags -/

/-- Whether nodes with the tag hold other nodes. -/
def Tag.isCollection : Tag → Bool
  | seq | map | set | omap | pairs => true
  | _ => false

/-- The value of a scalar. A scalar that merges, that stands for a whole mapping, or that has an
unknown tag has no value. -/
def scalarValue (tag : Tag) (t : Text) : Scans Value :=
  match tag with
  | .null => .ok .null
  | .bool => boolValue t
  | .int => intValue t
  | .float => floatValue t
  | .binary => binaryValue t
  | .timestamp => match Stamp.ofText? t with
    | some s => stampValue s
    | none => faulty .notMoment
  | .str => .ok (.text t)
  | _ => malformed

end TreeSieve.Yaml
