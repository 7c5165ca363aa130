import TreeSieve.Number.Binary64
import TreeSieve.Text.Basic

/-!
# Number — Shortest

The shortest decimal text of a floating-point number: of all decimals that are read back as the
number, one with the fewest digits, and of those the nearest.

`digits` finds it on one decimal grid after the other, from one digit to seventeen: the grid is
fine enough when one of the number's two neighbours on it lies in the interval of reals that round
to the number.  `text` then lays the digits out: positional from `10 ^ -4` up to below `10 ^ 16`,
with one digit at least behind the point, and scientific with an exponent of two digits or more
elsewhere.
-/

namespace TreeSieve.Binary64

/-- The exponent of the greatest power of ten not above `num / den`, looked for from `guess`
downwards. -/
def tenExponent (num den : Nat) (guess : Int) : Nat → Int
  | 0 => guess
  | fuel + 1 =>
    let reached : Bool :=
      if 0 ≤ guess then den * Nat.pow 10 guess.toNat ≤ num else den ≤ num * Nat.pow 10 (-guess).toNat
    if reached then guess else tenExponent num den (guess - 1) fuel

/-- The decimal `digits · 10 ^ e` as a fraction. -/
def decimalRatio (digits : Nat) (e : Int) : Nat × Nat :=
  if 0 ≤ e then (digits * Nat.pow 10 e.toNat, 1) else (digits, Nat.pow 10 (-e).toNat)

/-- Whether `digits · 10 ^ e` lies in the interval of reals that round to `m · 2 ^ q`. -/
def readsBack (m : Nat) (q : Int) (digits : Nat) (e : Int) : Bool :=
  let (a, b) := decimalRatio digits e
  -- in units of `2 ^ (q - 2)` the number is `4 m`, and the interval reaches two units up and two
  -- units down, or one unit down at the lower end of a binade
  let down := if m = Nat.pow 2 52 ∧ -1074 < q then 1 else 2
  let unit := q - 2
  let (a, b) := if 0 ≤ unit then (a, b * Nat.pow 2 unit.toNat) else (a * Nat.pow 2 (-unit).toNat, b)
  let low := b * (4 * m - down)
  let high := b * (4 * m + 2)
  if m % 2 = 0 then low ≤ a && a ≤ high else low < a && a < high

/-- The better one of the two neighbours of `num / den` on the grid of multiples of `10 ^ e`,
if one of them is read back as `m · 2 ^ q`. -/
def gridPoint? (m : Nat) (q : Int) (num den : Nat) (e : Int) : Option Nat :=
  let (a, b) := if 0 ≤ e then (num, den * Nat.pow 10 e.toNat) else (num * Nat.pow 10 (-e).toNat, den)
  let below := a / b
  let above := below + 1
  match readsBack m q below e, readsBack m q above e with
  | true, true =>
    let r := a % b
    some (if 2 * r < b then below else if b < 2 * r then above else below + below % 2)
  | true, false => some below
  | false, true => some above
  | false, false => none

/-- The first grid, from `n` digits on, with a point that is read back. -/
def firstGrid (m : Nat) (q : Int) (num den : Nat) (top : Int) : Nat → Nat → Nat × Int
  | _, 0 => (num / den, 0)
  | n, fuel + 1 =>
    let e := top - n + 1
    match gridPoint? m q num den e with
    | some d => (d, e)
    | none => firstGrid m q num den top (n + 1) fuel

/-- The digits and the exponent of the shortest decimal of a positive number `m · 2 ^ q`. -/
def shortest (m : Nat) (q : Int) : Nat × Int :=
  let (num, den) := if 0 ≤ q then (m * Nat.pow 2 q.toNat, 1) else (m, Nat.pow 2 (-q).toNat)
  let guess : Int := ((Nat.log2 num : Int) - (Nat.log2 den : Int)) * 30103 / 100000 + 1
  firstGrid m q num den (tenExponent num den guess 4) 1 20

/-- Digits with the point after the first `place` of them. -/
def positional (ds : Text) (place : Int) : Text :=
  if place ≤ 0 then '0' :: '.' :: List.replicate (-place).toNat '0' ++ ds
  else if (ds.length : Int) ≤ place then
    ds ++ List.replicate (place.toNat - ds.length) '0' ++ ['.', '0']
  else ds.take place.toNat ++ '.' :: ds.drop place.toNat

/-- Digits with the point after the first one, and an exponent. -/
def scientific (ds : Text) (exponent : Int) : Text :=
  let mark := if exponent < 0 then '-' else '+'
  let es := Text.ofNat exponent.natAbs
  let es := List.replicate (2 - es.length) '0' ++ es
  let body := match ds with
    | [] => []
    | [d] => [d]
    | d :: rest => d :: '.' :: rest
  body ++ 'e' :: mark :: es

/-- The text of a number. -/
def text : Binary64 → Text
  | nan => "nan".toList
  | infinite s => (if s then "-inf" else "inf").toList
  | finite s m q =>
    let body :=
      if m = 0 then "0.0".toList
      else
        let (d, e) := shortest m q
        let ds := Text.dropEndWhile (· == '0') (Text.ofNat d)
        let place : Int := (Text.ofNat d).length + e
        if -4 < place ∧ place ≤ 16 then positional ds place else scientific ds (place - 1)
    if s then '-' :: body else body

end TreeSieve.Binary64
