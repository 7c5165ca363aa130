import TreeSieve.Value.Basic

/-!
# Yaml — Failure

Why a text gives no value.  Most texts that fail are malformed; a few are well formed and name a
number, a date or a character that does not exist, or a word that a tag does not know.
-/

namespace TreeSieve.Yaml

/-- What is wrong with the text of a value. -/
inductive ValueFault where
  | year (n : Nat)
  | month
  | day
  | hour
  | minute
  | second
  /-- An offset from UTC of a day or more, in minutes. -/
  | offset (minutes : Int)
  /-- A numeral with more digits than can be read. -/
  | hugeNumeral (digits : Nat)
  /-- A number with more digits than are written. -/
  | hugeNumber
  /-- A numeral in base sixty with a place whose weight is too large. -/
  | hugePlace
  | badNumeral (base : Nat) (text : Text)
  | badFloat (text : Text)
  | emptyNumeral
  /-- A word that stands for no truth value. -/
  | unknownWord (text : Text)
  /-- A text tagged as a moment that is none. -/
  | notMoment
  /-- An escape for a code point beyond the last one. -/
  | noCodePoint
  /-- An escape for a number that is not even looked at. -/
  | hugeCodePoint
  deriving DecidableEq, Repr

/-- Why a text gives no value. -/
inductive Failure where
  | malformed
  | value (f : ValueFault)
  deriving DecidableEq, Repr

/-- A span of time in minutes, as messages write it. -/
def spanText (minutes : Int) : Text :=
  "datetime.timedelta(".toList ++ Value.deltaText (minutes * 60) ++ [')']

/-- The wording of a fault. -/
def ValueFault.message : ValueFault → Text
  | year n => "year ".toList ++ Text.ofNat n ++ " is out of range".toList
  | month => "month must be in 1..12".toList
  | day => "day is out of range for month".toList
  | hour => "hour must be in 0..23".toList
  | minute => "minute must be in 0..59".toList
  | second => "second must be in 0..59".toList
  | offset m =>
    ("offset must be a timedelta strictly between -timedelta(hours=24) and ".toList
      ++ "timedelta(hours=24), not ".toList ++ spanText m ++ ['.'])
  | hugeNumeral n =>
    "Exceeds the limit (4300 digits) for integer string conversion: value has ".toList
      ++ Text.ofNat n ++ " digits; use sys.set_int_max_str_digits() to increase the limit".toList
  | hugeNumber => Value.hugeNumberText
  | hugePlace => "int too large to convert to float".toList
  | badNumeral base t =>
    "invalid literal for int() with base ".toList ++ Text.ofNat base ++ ": ".toList ++ Text.quoted t
  | badFloat t => "could not convert string to float: ".toList ++ Text.quoted t
  | emptyNumeral => "string index out of range".toList
  | unknownWord t => Text.quoted t
  | notMoment => "'NoneType' object has no attribute 'groupdict'".toList
  | noCodePoint => "chr() arg not in range(0x110000)".toList
  | hugeCodePoint => "Python int too large to convert to C int".toList

end TreeSieve.Yaml
