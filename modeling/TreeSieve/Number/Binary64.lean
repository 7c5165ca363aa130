/-!
# Number — Binary64

Binary floating-point numbers of 64 bits, as exact data: not a number, an infinity, or a sign with
`mantissa · 2 ^ exponent`.  A finite number is *canonical* when its mantissa is below `2 ^ 53` and
its exponent lies between `-1074` and `971`, with a mantissa below `2 ^ 52` only at `-1074`.

`ofRatio` rounds a quotient of natural numbers to the nearest canonical number, a tie to the even
mantissa, and `ofDecimal` reads a decimal through it, so both are exact.
-/

namespace TreeSieve

/-- A floating-point number. -/
inductive Binary64 where
  | nan
  | infinite (negative : Bool)
  | finite (negative : Bool) (mantissa : Nat) (exponent : Int)
  deriving DecidableEq, Repr

namespace Binary64

/-- The natural number nearest to `num / den`, the even one of two. -/
def roundQuotient (num den : Nat) : Nat :=
  let q := num / den
  let r := num % den
  if 2 * r < den then q else if den < 2 * r then q + 1 else q + q % 2

/-- `num / (den · 2 ^ e)` rounded to a natural number. -/
def scaled (num den : Nat) (e : Int) : Nat :=
  if 0 ≤ e then roundQuotient num (den * Nat.pow 2 e.toNat)
  else roundQuotient (num * Nat.pow 2 (-e).toNat) den

/-- The number nearest to `num / den`, where `den` is positive. -/
def ofRatio (negative : Bool) (num den : Nat) : Binary64 :=
  if num = 0 then finite negative 0 (-1074)
  else
    let guess : Int := (Nat.log2 num : Int) - (Nat.log2 den : Int) - 52
    -- with this exponent the mantissa lies between `2 ^ 51` and `2 ^ 53`
    let tooSmall : Bool :=
      if 0 ≤ guess then num < den * Nat.pow 2 (guess.toNat + 52)
      else num * Nat.pow 2 (-guess).toNat < den * Nat.pow 2 52
    let e := max (-1074) (if tooSmall then guess - 1 else guess)
    let m := scaled num den e
    let (m, e) := if m = Nat.pow 2 53 then (Nat.pow 2 52, e + 1) else (m, e)
    if 971 < e then infinite negative else finite negative m e

/-- The number nearest to `digits · 10 ^ e`. -/
def ofDecimal (negative : Bool) (digits : Nat) (e : Int) : Binary64 :=
  if digits = 0 then ofRatio negative 0 1
  -- beyond these bounds the result is infinite or zero whatever the digits are
  else if 310 < e then infinite negative
  else if e + ((Nat.toDigits 10 digits).length : Int) < -330 then ofRatio negative 0 1
  else if 0 ≤ e then ofRatio negative (digits * Nat.pow 10 e.toNat) 1
  else ofRatio negative digits (Nat.pow 10 (-e).toNat)

/-- The number nearest to an integer. -/
def ofInt (n : Int) : Binary64 := ofRatio (n < 0) n.natAbs 1

/-- A finite number as a fraction: a sign, a numerator, a denominator. -/
def ratio? : Binary64 → Option (Bool × Nat × Nat)
  | finite s m e => some (if 0 ≤ e then (s, m * Nat.pow 2 e.toNat, 1) else (s, m, Nat.pow 2 (-e).toNat))
  | _ => none

/-- The sum of two numbers, rounded. -/
def add (x y : Binary64) : Binary64 :=
  match ratio? x, ratio? y with
  | some (s, a, b), some (t, c, d) =>
    let left : Int := (if s then -1 else 1) * (a * d : Nat)
    let right : Int := (if t then -1 else 1) * (c * b : Nat)
    let total := left + right
    if total = 0 then ofRatio (s && t) 0 1 else ofRatio (total < 0) total.natAbs (b * d)
  | none, some _ => x
  | some _, none => y
  | none, none => if x = y then x else nan

/-- The product of a number with a natural number, rounded. -/
def scale (n : Nat) (x : Binary64) : Binary64 :=
  match ratio? x with
  | some (s, a, b) => ofRatio s (n * a) b
  | none => if n = 0 then nan else x

/-- The number with the other sign. -/
def negate : Binary64 → Binary64
  | nan => nan
  | infinite s => infinite !s
  | finite s m e => finite (!s) m e

/-- Whether the number equals zero. -/
def isZero : Binary64 → Bool
  | finite _ m _ => m == 0
  | _ => false

/-- The integer that a finite number equals, if it equals one. -/
def int? : Binary64 → Option Int
  | finite s m e =>
    let sign (n : Nat) : Int := if s then -n else n
    if 0 ≤ e then some (sign (m * Nat.pow 2 e.toNat))
    else
      let d := Nat.pow 2 (-e).toNat
      if m % d = 0 then some (sign (m / d)) else none
  | _ => none

end Binary64

end TreeSieve
