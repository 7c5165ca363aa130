import TreeSieve.Value.Basic

/-!
# Value — Fault

What can be wrong with a value that should become a record.  A `Fault` is a cause at a place inside
the record; a record is turned down with all its faults, in the order of its fields
(`Rejection.faults`), or at once, when a field holds a value that cannot even be walked through
(`notIterable`, `notTrimmable`).
-/

namespace TreeSieve

/-- Why a field of a record cannot be read. -/
inductive Cause where
  | missing
  | notText
  /-- Bytes that are no text. -/
  | badText
  | emptyText
  | notList
  | notBool
  | unclearBool
  | notInt
  | unclearInt
  | hugeInt
  | fractionalInt
  | notFinite
  | notPositive
  /-- None of the listed names. -/
  | notAmong (names : List Text)
  /-- No record of the named type. -/
  | notRecord (type : Text)
  /-- A rule of the field's own type is broken. -/
  | rule (text : Text)
  deriving DecidableEq, Repr

/-- A cause at a place: the path of field names and list positions from the record down. -/
structure Fault where
  place : List Text
  cause : Cause
  deriving DecidableEq, Repr

/-- Why a value is no record of the type named. -/
inductive Rejection where
  | faults (type : Text) (faults : List Fault)
  | notIterable (kind : Value.Kind)
  | notTrimmable (kind : Value.Kind)
  deriving DecidableEq, Repr

namespace Cause

/-- Names in apostrophes, the last one after "or". -/
def alternatives : List Text → Text
  | [] => []
  | [a] => '\'' :: a ++ ['\'']
  | [a, b] => '\'' :: a ++ "' or '".toList ++ b ++ ['\'']
  | a :: b :: rest => '\'' :: a ++ "', ".toList ++ alternatives (b :: rest)

/-- The wording of a cause. -/
def message : Cause → Text
  | missing => "Field required".toList
  | notText => "Input should be a valid string".toList
  | badText =>
    "Input should be a valid string, unable to parse raw data as a unicode string".toList
  | emptyText => "String should have at least 1 character".toList
  | notList => "Input should be a valid list".toList
  | notBool => "Input should be a valid boolean".toList
  | unclearBool => "Input should be a valid boolean, unable to interpret input".toList
  | notInt => "Input should be a valid integer".toList
  | unclearInt => "Input should be a valid integer, unable to parse string as an integer".toList
  | hugeInt => "Unable to parse input string as an integer, exceeded maximum size".toList
  | fractionalInt => "Input should be a valid integer, got a number with a fractional part".toList
  | notFinite => "Input should be a finite number".toList
  | notPositive => "Input should be greater than 0".toList
  | notAmong names => "Input should be ".toList ++ alternatives names
  | notRecord type => "Input should be a valid dictionary or instance of ".toList ++ type
  | rule t => "Value error, ".toList ++ t

/-- The name of a cause. -/
def name : Cause → Text
  | missing => "missing".toList
  | notText => "string_type".toList
  | badText => "string_unicode".toList
  | emptyText => "string_too_short".toList
  | notList => "list_type".toList
  | notBool => "bool_type".toList
  | unclearBool => "bool_parsing".toList
  | notInt => "int_type".toList
  | unclearInt => "int_parsing".toList
  | hugeInt => "int_parsing_size".toList
  | fractionalInt => "int_from_float".toList
  | notFinite => "finite_number".toList
  | notPositive => "greater_than".toList
  | notAmong _ => "enum".toList
  | notRecord _ => "model_type".toList
  | rule _ => "value_error".toList

end Cause

namespace Fault

/-- A fault seen from the record around: its place is inside the field named. -/
def inside (field : Text) (f : Fault) : Fault := ⟨field :: f.place, f.cause⟩

/-- The lines of a fault: its place, if it is not the whole record, and its cause. -/
def lines (f : Fault) : List Text :=
  let cause := ' ' :: ' ' :: f.cause.message ++ " [type=".toList ++ f.cause.name ++ [']']
  if f.place.isEmpty then [cause] else [Text.join ['.'] f.place, cause]

end Fault

namespace Rejection

/-- A rejection by one fault of the whole record. -/
def whole (type : Text) (c : Cause) : Rejection := faults type [⟨[], c⟩]

/-- The wording of a rejection: the count of the faults, then the lines of each. -/
def message : Rejection → Text
  | faults type fs =>
    let count := Text.ofNat fs.length ++
      (if fs.length = 1 then " validation error for ".toList else " validation errors for ".toList)
    Text.join ['\n'] ((count ++ type) :: fs.flatMap Fault.lines)
  | notIterable k => '\'' :: k.name ++ "' object is not iterable".toList
  | notTrimmable .bytes => "startswith first arg must be bytes or a tuple of bytes, not str".toList
  | notTrimmable k => '\'' :: k.name ++ "' object has no attribute 'strip'".toList

end Rejection

end TreeSieve
