/-!
# Text — Basic

A text is the list of its code points: every length, index and cut in this library counts code
points.  This module holds the operations on texts that know nothing of character classes:
occurrence, splitting, replacing, joining, the order by code point.

What is known of single code points stands in tables: a character class as a `CharTable` of closed
intervals in increasing order, names as a `Text.NameBlock`.
-/

namespace TreeSieve

/-- A text, as the list of its code points. -/
abbrev Text := List Char

/-- A class of characters, as closed intervals of code points in increasing order. -/
abbrev CharTable := List (Nat × Nat)

/-- Whether a code point lies in one of the intervals. -/
def CharTable.has (t : CharTable) (n : Nat) : Bool :=
  t.any fun r => r.1 ≤ n && n ≤ r.2

namespace Text

/-- The names of neighbouring code points, cut into lines.  The names follow each other in the order
of the code points, with a comma between them; a digit stands for so many first words of the name
before, and a hyphen for a code point without a name. -/
structure NameBlock where
  start : Nat
  lines : List String

/-- `needle` stands somewhere in the text as a run of neighbouring characters. -/
def occurs (needle : Text) : Text → Bool
  | [] => needle.isEmpty
  | c :: cs => needle.isPrefixOf (c :: cs) || occurs needle cs

/-- Whether the last characters of the text are `tail`. -/
def endsWith (t tail : Text) : Bool :=
  tail.reverse.isPrefixOf t.reverse

/-- The text without its longest end of characters satisfying `p`. -/
def dropEndWhile (p : Char → Bool) (t : Text) : Text :=
  (t.reverse.dropWhile p).reverse

/-- The text without its longest ends, on both sides, of characters satisfying `p`. -/
def dropAround (p : Char → Bool) (t : Text) : Text :=
  dropEndWhile p (t.dropWhile p)

/-- The text up to the first `sep` and the text after it; `none` when `sep` does not occur. -/
def cut? (sep : Char) : Text → Option (Text × Text)
  | [] => none
  | c :: cs =>
    if c = sep then some ([], cs)
    else (cut? sep cs).map fun (a, b) => (c :: a, b)

/-- The text before the last `sep` and the text after it; `none` when `sep` does not occur. -/
def cutLast? (sep : Char) (t : Text) : Option (Text × Text) :=
  (cut? sep t.reverse).map fun (a, b) => (b.reverse, a.reverse)

/-- The parts of the text between the occurrences of `sep`; one part when there is none. -/
def parts (sep : Char) : Text → List Text
  | [] => [[]]
  | c :: cs =>
    if c = sep then [] :: parts sep cs
    else match parts sep cs with
      | [] => [[c]]
      | p :: ps => (c :: p) :: ps

/-- The texts one after the other with `sep` between neighbours. -/
def join (sep : Text) : List Text → Text
  | [] => []
  | [t] => t
  | t :: u :: ts => t ++ sep ++ join sep (u :: ts)

/-- The order of texts by code point, shorter first among texts of which one begins the other. -/
def le : Text → Text → Bool
  | [], _ => true
  | _ :: _, [] => false
  | a :: as, b :: bs => a.val < b.val || (a == b && le as bs)

/-- Puts a text at its place in a list kept in increasing order without repetition. -/
def insertSorted (t : Text) : List Text → List Text
  | [] => [t]
  | u :: us => if t = u then u :: us else if le t u then t :: u :: us else u :: insertSorted t us

/-- The texts of a list in increasing order, each once. -/
def sortedSet (ts : List Text) : List Text :=
  ts.foldr insertSorted []

/-- The digits of a number in base ten. -/
def ofNat (n : Nat) : Text := Nat.toDigits 10 n

/-- The numeral of an integer in base ten, with a minus sign before a negative one. -/
def ofInt : Int → Text
  | .ofNat n => ofNat n
  | .negSucc n => '-' :: ofNat (n + 1)

/-- The digits of `n` in base sixteen, lower case, with zeros in front up to `width` digits. -/
def hex (width n : Nat) : Text :=
  let ds := Nat.toDigits 16 n
  List.replicate (width - ds.length) '0' ++ ds

end Text

end TreeSieve
