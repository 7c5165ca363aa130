import TreeSieve.Number.Integer
import TreeSieve.Number.Shortest
import TreeSieve.Text.Quoted

/-!
# Value — Basic

Values of documents: what a configuration file or a note's front matter can hold, before anything
is known of its meaning.  A map keeps its entries in the order in which their keys first came.

`toText` is the text of a value, the text itself for a text; inside lists and maps texts stand in
their quoted form.  A value with a number of too many digits is not to be written (`isWritable`).
-/

namespace TreeSieve

/-- A value of a document. -/
inductive Value where
  | null
  | bool (b : Bool)
  | int (n : Int)
  | float (x : Binary64)
  | text (t : Text)
  | date (year month day : Nat)
  /-- A date with a time of day, to the microsecond, and an offset from UTC in minutes. -/
  | moment (year month day hour minute second micro : Nat) (offset : Option Int)
  | bytes (bs : List UInt8)
  | list (xs : List Value)
  | pair (a b : Value)
  | set (xs : List Value)
  | map (entries : List (Value × Value))
  /-- The enclosing list, set or map over again. -/
  | cycle (isMap : Bool)

namespace Value

/-- The kinds of values, named as messages name them. -/
inductive Kind where
  | null | bool | int | float | text | date | moment | bytes | list | pair | set | map
  deriving DecidableEq, Repr

/-- The full name of a kind. -/
def Kind.name : Kind → Text
  | null => "NoneType".toList
  | bool => "bool".toList
  | int => "int".toList
  | float => "float".toList
  | text => "str".toList
  | date => "datetime.date".toList
  | moment => "datetime.datetime".toList
  | bytes => "bytes".toList
  | list => "list".toList
  | pair => "tuple".toList
  | set => "set".toList
  | map => "dict".toList

/-- The name of a kind without the family it belongs to. -/
def Kind.shortName (k : Kind) : Text :=
  match Text.cutLast? '.' k.name with
  | some (_, short) => short
  | none => k.name

/-- The kind of a value. -/
def kind : Value → Kind
  | null => .null
  | bool _ => .bool
  | int _ => .int
  | float _ => .float
  | text _ => .text
  | date .. => .date
  | moment .. => .moment
  | bytes _ => .bytes
  | list _ => .list
  | pair .. => .pair
  | set _ => .set
  | map _ => .map
  | cycle isMap => if isMap then .map else .list

/-- Whether a value counts as absent: null, false, zero, or empty. -/
def isVoid : Value → Bool
  | null => true
  | bool b => !b
  | int n => n == 0
  | float x => x.isZero
  | text t => t.isEmpty
  | bytes bs => bs.isEmpty
  | list xs | set xs => xs.isEmpty
  | map es => es.isEmpty
  | date .. | moment .. | pair .. | cycle _ => false

/-- A number with zeros in front up to `width` digits. -/
def padded (width n : Nat) : Text :=
  let ds := Text.ofNat n
  List.replicate (width - ds.length) '0' ++ ds

/-- A date as year, month and day. -/
def dateText (y m d : Nat) : Text :=
  padded 4 y ++ '-' :: padded 2 m ++ '-' :: padded 2 d

/-- An offset from UTC as hours and minutes. -/
def offsetText (minutes : Int) : Text :=
  let n := minutes.natAbs
  (if minutes < 0 then '-' else '+') :: padded 2 (n / 60) ++ ':' :: padded 2 (n % 60)

/-- A moment as date, time and offset; the fraction of the second is left out when it is zero. -/
def momentText (y m d h mi s us : Nat) (offset : Option Int) : Text :=
  let fraction := if us = 0 then [] else '.' :: padded 6 us
  let zone := match offset with
    | some o => offsetText o
    | none => []
  dateText y m d ++ ' ' :: padded 2 h ++ ':' :: padded 2 mi ++ ':' :: padded 2 s ++ fraction ++ zone

/-- A date as it stands inside another value. -/
def quotedDate (y m d : Nat) : Text :=
  "datetime.date(".toList ++ Text.join ", ".toList ([y, m, d].map Text.ofNat) ++ [')']

/-- A span of time as days and seconds, the seconds never negative; a part that is zero is left
out. -/
def deltaText (seconds : Int) : Text :=
  let days := seconds / 86400
  let rest := seconds % 86400
  let parts := (if days = 0 then [] else ["days=".toList ++ Text.ofInt days])
    ++ (if rest = 0 then [] else ["seconds=".toList ++ Text.ofInt rest])
  if parts.isEmpty then ['0'] else Text.join ", ".toList parts

/-- The offset of a moment as it stands inside another value. -/
def quotedOffset (minutes : Int) : Text :=
  if minutes = 0 then "datetime.timezone.utc".toList
  else
    "datetime.timezone(datetime.timedelta(".toList ++ deltaText (minutes * 60) ++ "))".toList

/-- A moment as it stands inside another value; seconds and microseconds are left out from the
right while they are zero. -/
def quotedMoment (y m d h mi s us : Nat) (offset : Option Int) : Text :=
  let tail := if us = 0 then if s = 0 then [] else [s] else [s, us]
  let zone := match offset with
    | some o => ", tzinfo=".toList ++ quotedOffset o
    | none => []
  "datetime.datetime(".toList ++
    Text.join ", ".toList (([y, m, d, h, mi] ++ tail).map Text.ofNat) ++ zone ++ [')']

/-- Bytes as they stand inside another value. -/
def quotedBytes (bs : List UInt8) : Text :=
  let cs := bs.map fun b => Char.ofNat b.toNat
  let q := Text.quoteMark cs
  'b' :: q :: cs.flatMap (fun c =>
    if c.toNat < 128 then Text.quoteChar q c else Text.numberEscape c.toNat) ++ [q]

mutual

/-- A value as it stands inside another value. -/
def quoted : Value → Text
  | null => "None".toList
  | bool b => (if b then "True" else "False").toList
  | int n => Text.ofInt n
  | float x => x.text
  | text t => Text.quoted t
  | date y m d => quotedDate y m d
  | moment y m d h mi s us o => quotedMoment y m d h mi s us o
  | bytes bs => quotedBytes bs
  | list xs => '[' :: Text.join ", ".toList (quotedAll xs) ++ [']']
  | pair a b => '(' :: a.quoted ++ ',' :: ' ' :: b.quoted ++ [')']
  | set xs => if xs.isEmpty then "set()".toList
      else '\x7b' :: Text.join ", ".toList (quotedAll xs) ++ ['\x7d']
  | map es => '\x7b' :: Text.join ", ".toList (quotedEntries es) ++ ['\x7d']
  | cycle isMap => (if isMap then "\x7b...\x7d" else "[...]").toList

/-- The values of a list as they stand inside it. -/
def quotedAll : List Value → List Text
  | [] => []
  | x :: xs => x.quoted :: quotedAll xs

/-- The entries of a map as they stand inside it. -/
def quotedEntries : List (Value × Value) → List Text
  | [] => []
  | (k, v) :: es => (k.quoted ++ ':' :: ' ' :: v.quoted) :: quotedEntries es

end

/-- The text of a value. -/
def toText : Value → Text
  | text t => t
  | date y m d => dateText y m d
  | moment y m d h mi s us o => momentText y m d h mi s us o
  | v => v.quoted

mutual

/-- Whether no number in a value has more digits than are written. -/
def isWritable : Value → Bool
  | int n => (Text.ofNat n.natAbs).length ≤ Number.digitLimit
  | list xs | set xs => areWritable xs
  | pair a b => a.isWritable && b.isWritable
  | map es => areEntriesWritable es
  | _ => true

/-- Whether all values of a list are to be written. -/
def areWritable : List Value → Bool
  | [] => true
  | x :: xs => x.isWritable && areWritable xs

/-- Whether all keys and values of a map are to be written. -/
def areEntriesWritable : List (Value × Value) → Bool
  | [] => true
  | (k, v) :: es => k.isWritable && v.isWritable && areEntriesWritable es

end

/-- The wording of the fault of a value that is to be written and cannot. -/
def hugeNumberText : Text :=
  "Exceeds the limit (4300 digits) for integer string conversion; ".toList
    ++ "use sys.set_int_max_str_digits() to increase the limit".toList

/-- The value under a text key. -/
def lookup (entries : List (Value × Value)) (key : Text) : Option Value :=
  match entries with
  | [] => none
  | (.text k, v) :: es => if k = key then some v else lookup es key
  | _ :: es => lookup es key

end Value

end TreeSieve
