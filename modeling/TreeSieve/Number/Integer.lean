import TreeSieve.Text.Blank
import TreeSieve.Text.Letter

/-!
# Number — Integer

Reading integers from numerals with blanks around them and a sign.  Decimal digits may be those of
any script.  In base ten single underscores may stand between the digits; in base two, eight and
sixteen the mark of the base may stand before them.
-/

namespace TreeSieve.Number

/-- The value of a digit of a base up to sixteen. -/
def digitValue (c : Char) : Nat :=
  if Text.isAsciiDigit c then c.toNat - '0'.toNat
  else if 'a' ≤ c && c ≤ 'f' then c.toNat - 'a'.toNat + 10
  else if 'A' ≤ c && c ≤ 'F' then c.toNat - 'A'.toNat + 10
  else 16

/-- Whether a character is a digit of a base up to sixteen. -/
def isBaseDigit (base : Nat) (c : Char) : Bool := digitValue c < base

/-- The number that digits of a base stand for. -/
def ofDigits (base : Nat) (ds : Text) : Nat :=
  ds.foldl (fun n d => n * base + digitValue d) 0

/-- A decimal digit of any script as the ASCII digit of its value; other characters stay. -/
def plainDigit (c : Char) : Char :=
  if Text.isDecimal c then Char.ofNat ('0'.toNat + Text.decimalValue c) else c

/-- The number that decimal digits of any script stand for, with single underscores between them. -/
def ofUnderscored? : Text → Option Nat
  | [] => none
  | d :: ds =>
    let rec go (n : Nat) : Text → Option Nat
      | [] => some n
      | '_' :: e :: es => if Text.isDecimal e then go (n * 10 + Text.decimalValue e) es else none
      | e :: es => if Text.isDecimal e then go (n * 10 + Text.decimalValue e) es else none
    if Text.isDecimal d then go (Text.decimalValue d) ds else none

/-- The number of digits from which on a numeral is too long to be read. -/
def digitLimit : Nat := 4300

/-- The integer that a numeral stands for. -/
def readInt? (t : Text) : Option Int :=
  let s := Text.dropAround Text.isSpace t
  if digitLimit < s.countP Text.isDecimal then none
  else match s with
    | '-' :: r => (ofUnderscored? r).map fun n => -(n : Int)
    | '+' :: r => (ofUnderscored? r).map fun n => (n : Int)
    | r => (ofUnderscored? r).map fun n => (n : Int)

/-- Whether a letter behind a zero marks a base. -/
def marksBase (base : Nat) (c : Char) : Bool :=
  match base with
  | 2 => c = 'b' || c = 'B'
  | 8 => c = 'o' || c = 'O'
  | 16 => c = 'x' || c = 'X'
  | _ => false

/-- The number that digits of a base stand for, perhaps behind the mark of the base. -/
def ofMarked? (base : Nat) (t : Text) : Option Nat :=
  let ds := match t with
    | '0' :: c :: r => if marksBase base c then r else t
    | _ => t
  if !ds.isEmpty && ds.all (isBaseDigit base) then some (ofDigits base ds) else none

/-- The integer that a numeral of a base up to sixteen stands for; it holds no underscores. -/
def readBase? (base : Nat) (t : Text) : Option Int :=
  match (Text.dropAround Text.isSpace t).map plainDigit with
  | '-' :: r => (ofMarked? base r).map fun n => -(n : Int)
  | '+' :: r => (ofMarked? base r).map fun n => (n : Int)
  | r => (ofMarked? base r).map fun n => (n : Int)

end TreeSieve.Number
