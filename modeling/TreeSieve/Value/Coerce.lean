import TreeSieve.Value.Fault
import TreeSieve.Text.Letter
import TreeSieve.Text.Blank
import TreeSieve.Text.Utf8

/-!
# Value — Coerce

Reading a field of a record from a value.  A text may also be given by its bytes; a truth value may
also be written as a number or a word, and an integer as a truth value, a whole number with a point
or a decimal numeral.

`Checked` collects the faults of all fields: reading goes on after a fault, and the record is made
only when there was none.
-/

namespace TreeSieve

/-- The outcome of reading a field: its value, or the faults found. -/
abbrev Checked (α : Type) := Except (List Fault) α

namespace Checked

/-- A single fault at the place itself. -/
def fault {α : Type} (c : Cause) : Checked α := .error [⟨[], c⟩]

/-- Two fields read one after the other: the faults of both are kept, in order. -/
def both {α β γ : Type} (f : α → β → γ) : Checked α → Checked β → Checked γ
  | .ok a, .ok b => .ok (f a b)
  | .ok _, .error e => .error e
  | .error e, .ok _ => .error e
  | .error e, .error e' => .error (e ++ e')

/-- A field named `name`: its faults lie inside it. -/
def named {α : Type} (name : Text) : Checked α → Checked α
  | .ok a => .ok a
  | .error e => .error (e.map (Fault.inside name))

/-- A field named `name` that is read as a record of its own: its faults are those of the field, and
what turns it down at once turns down the record around. -/
def ofField {α : Type} (name : Text) : Except Rejection α → Except Rejection (Checked α)
  | .ok a => .ok (.ok a)
  | .error (.faults _ fs) => .ok (named name (.error fs))
  | .error r => .error r

end Checked

namespace Value

/-- The truth value that a word stands for. -/
def wordBool? (t : Text) : Option Bool :=
  let w := Text.asciiLower t
  if ["0", "off", "f", "false", "n", "no"].any (w == ·.toList) then some false
  else if ["1", "on", "t", "true", "y", "yes"].any (w == ·.toList) then some true
  else none

/-- The integers of a machine word. -/
def inWord (n : Int) : Bool := -9223372036854775808 ≤ n && n < 9223372036854775808

/-- Whether the conversion of a whole floating-point number to an integer is exact: it is done
inside the machine word only. -/
def inFloatWord (n : Int) : Bool := -9223372036854775808 < n && n < 9223372036854775808

/-- A truth value from a whole number. -/
def numberBool (n : Int) : Checked Bool :=
  if n = 0 then .ok false else if n = 1 then .ok true else Checked.fault .unclearBool

/-- The text that some bytes are, if they are those of a text. -/
def bytesText? (bs : List UInt8) : Option Text := (Text.Utf8.decode bs).toOption

/-- A truth value from a word. -/
def textBool (t : Text) : Checked Bool :=
  match wordBool? t with
  | some b => .ok b
  | none => Checked.fault .unclearBool

/-- A field that holds a truth value. -/
def asBool : Value → Checked Bool
  | bool b => .ok b
  | int n => if inWord n then numberBool n else Checked.fault .notBool
  | float x => match x.int? with
    | some n => if inFloatWord n then numberBool n else Checked.fault .notBool
    | none => Checked.fault .notBool
  | text t => textBool t
  | bytes bs => match bytesText? bs with
    | some t => textBool t
    | none => Checked.fault .unclearBool
  | _ => Checked.fault .notBool

/-- The number of a run of decimal digits. -/
def digitsValue (ds : Text) : Nat :=
  ds.foldl (fun n d => n * 10 + (d.toNat - '0'.toNat)) 0

/-- An integer numeral in its strict form: an optional minus sign, then digits without a leading
zero. -/
def strictInt? (t : Text) : Option Int :=
  let (negative, ds) := match t with
    | '-' :: r => (true, r)
    | r => (false, r)
  if ds.isEmpty || !ds.all Text.isAsciiDigit || (ds.length ≠ 1 && ds.head? == some '0') then none
  else
    let n : Int := digitsValue ds
    some (if negative then -n else n)

/-- The number of digits from which on a numeral is too long. -/
def digitLimit : Nat := 4300

/-- A numeral without its leading zeros, of which one is kept where nothing else stands before the
end or the point; underscores among them go too.  `none` when the text does not start like a
number. -/
def dropLeadingZeros (t : Text) : Option Text :=
  match t with
  | '0' :: rest =>
    match rest.dropWhile (fun c => c == '0' || c == '_') with
    | [] => some [t.getLast?.getD '0']
    | '.' :: after =>
      some ((('0' :: rest).reverse.drop (after.length + 1)).take 1 ++ '.' :: after)
    | c :: after => if Text.isAsciiDigit c then some (c :: after) else none
  | c :: _ => if Text.isAsciiDigit c || c == '-' then some t else none
  | [] => none

/-- A numeral without a fraction of zeros. -/
def dropZeroFraction (t : Text) : Text :=
  match Text.cut? '.' t with
  | some (whole, fraction) => if fraction.all (· == '0') then whole else t
  | none => t

/-- Whether two underscores stand next to each other. -/
def hasDoubleUnderscore (t : Text) : Bool := Text.occurs ['_', '_'] t

/-- A numeral without its underscores, which must stand alone and inside. -/
def dropUnderscores (t : Text) : Text :=
  if t.head? == some '_' || t.getLast? == some '_' || hasDoubleUnderscore t then t
  else t.filter (· ≠ '_')

/-- A numeral in the strict form, from one with blanks around it, a plus sign, leading zeros,
single underscores inside or a fraction of zeros. -/
def tidyInt? (t : Text) : Option Text :=
  let s := Text.dropAround Text.isSpace t
  let s := match s with
    | '+' :: r => r
    | r => r
  (dropLeadingZeros s).map fun s => dropUnderscores (dropZeroFraction s)

/-- An integer from a text. -/
def textInt (t : Text) : Checked Int :=
  let read (s : Text) : Option (Checked Int) :=
    (strictInt? s).map fun n =>
      if (s.filter Text.isAsciiDigit).length > digitLimit then Checked.fault .hugeInt else .ok n
  match read t with
  | some r => r
  | none => match (tidyInt? t).bind read with
    | some r => r
    | none => Checked.fault .unclearInt

/-- A field that holds an integer. -/
def asInt : Value → Checked Int
  | int n => .ok n
  | bool b => .ok (if b then 1 else 0)
  | float x => match x with
    | .finite .. => match x.int? with
      | some n => if inFloatWord n then .ok n else Checked.fault .hugeInt
      | none => Checked.fault .fractionalInt
    | _ => Checked.fault .notFinite
  | text t => textInt t
  | bytes bs => match bytesText? bs with
    | some t => textInt t
    | none => Checked.fault .unclearInt
  | _ => Checked.fault .notInt

/-- A field that holds a positive integer. -/
def asPositive (v : Value) : Checked Nat := do
  let n ← asInt v
  if n ≤ 0 then Checked.fault .notPositive else .ok n.toNat

/-- A field that holds a text. -/
def asText : Value → Checked Text
  | text t => .ok t
  | bytes bs => match bytesText? bs with
    | some t => .ok t
    | none => Checked.fault .badText
  | _ => Checked.fault .notText

/-- The texts of a list of values, the first of which has the position `i`. -/
def textsFrom (i : Nat) : List Value → Checked (List Text)
  | [] => .ok []
  | x :: xs => Checked.both List.cons (Checked.named (Text.ofNat i) (asText x)) (textsFrom (i + 1) xs)

/-- A field that holds a list of texts, for which a set or a pair will do. -/
def asTexts : Value → Checked (List Text)
  | list xs | set xs => textsFrom 0 xs
  | pair a b => textsFrom 0 [a, b]
  | _ => Checked.fault .notList

/-- The field `name` of a record, read by `read` and taken as `default` when it is missing. -/
def field {α : Type} (entries : List (Value × Value)) (name : Text) (read : Value → Checked α)
    (default : α) : Checked α :=
  match lookup entries name with
  | some v => Checked.named name (read v)
  | none => .ok default

/-- The members of a value that is walked through: the items of a list or set, the keys of a map,
the characters of a text. -/
def members : Value → Except Rejection (List Value)
  | list xs | set xs => .ok xs
  | pair a b => .ok [a, b]
  | map es => .ok (es.map Prod.fst)
  | text t => .ok (t.map fun c => text [c])
  | bytes bs => .ok (bs.map fun b => int b.toNat)
  | v => .error (.notIterable v.kind)

end Value

end TreeSieve
