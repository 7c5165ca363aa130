import TreeSieve.Text.Basic

/-!
# Text — Utf8

Texts as bytes.  Reading stops at the first bytes that no character has (`decode`) or puts a
replacement character in their place (`decodeLeniently`); both take as few bytes for bad ones as
rule every character out.
-/

namespace TreeSieve.Text.Utf8

/-- What is wrong with some bytes. -/
inductive Reason where
  | badStart
  | badContinuation
  | unexpectedEnd
  deriving DecidableEq, Repr

/-- Bytes that no character has: where they are, how many they are, and what is wrong. -/
structure Fault where
  place : Nat
  width : Nat
  first : UInt8
  reason : Reason
  deriving DecidableEq, Repr

/-- The ranges of the bytes behind a first byte; `none` when no character starts with it. -/
def tails (b : Nat) : Option (List (Nat × Nat)) :=
  if b < 0x80 then some []
  else if b < 0xC2 then none
  else if b < 0xE0 then some [(0x80, 0xBF)]
  else if b = 0xE0 then some [(0xA0, 0xBF), (0x80, 0xBF)]
  else if b = 0xED then some [(0x80, 0x9F), (0x80, 0xBF)]
  else if b < 0xF0 then some [(0x80, 0xBF), (0x80, 0xBF)]
  else if b = 0xF0 then some [(0x90, 0xBF), (0x80, 0xBF), (0x80, 0xBF)]
  else if b < 0xF4 then some [(0x80, 0xBF), (0x80, 0xBF), (0x80, 0xBF)]
  else if b = 0xF4 then some [(0x80, 0x8F), (0x80, 0xBF), (0x80, 0xBF)]
  else none

/-- How many bytes lie in their ranges, one after the other. -/
def met : List (Nat × Nat) → List UInt8 → Nat
  | (lo, hi) :: rs, b :: bs => if lo ≤ b.toNat && b.toNat ≤ hi then met rs bs + 1 else 0
  | _, _ => 0

/-- The character of a first byte and the bytes behind it. -/
def assemble (b : Nat) (bs : List UInt8) : Char :=
  let head := if bs.isEmpty then b else b % Nat.pow 2 (6 - bs.length)
  Char.ofNat (bs.foldl (fun n b => n * 64 + b.toNat % 64) head)

/-- The character at the start of the bytes `b :: bs`, or what is wrong there, and how many bytes
behind `b` it takes. -/
def next (b : UInt8) (bs : List UInt8) : Except Reason Char × Nat :=
  match tails b.toNat with
  | none => (.error .badStart, 0)
  | some rs =>
    let k := met rs bs
    if k = rs.length then (.ok (assemble b.toNat (bs.take k)), k)
    else if bs.length ≤ k then (.error .unexpectedEnd, k)
    else (.error .badContinuation, k)

/-- The text of bytes from the place `i` on. -/
def decodeFrom (i : Nat) : List UInt8 → Except Fault Text
  | [] => .ok []
  | b :: bs =>
    match (next b bs).1 with
    | .error r => .error ⟨i, (next b bs).2 + 1, b, r⟩
    | .ok c => (decodeFrom (i + (next b bs).2 + 1) (bs.drop (next b bs).2)).map (c :: ·)
termination_by bs => bs.length
decreasing_by simp only [List.length_drop, List.length_cons]; omega

/-- The text of bytes. -/
def decode (bs : List UInt8) : Except Fault Text := decodeFrom 0 bs

/-- The text of bytes, with a replacement character for bad ones. -/
def decodeLeniently : List UInt8 → Text
  | [] => []
  | b :: bs =>
    let c := match (next b bs).1 with
      | .error _ => '\uFFFD'
      | .ok c => c
    c :: decodeLeniently (bs.drop (next b bs).2)
termination_by bs => bs.length
decreasing_by simp only [List.length_drop, List.length_cons]; omega

/-- The bytes of a character. -/
def encodeChar (c : Char) : List UInt8 :=
  let n := c.toNat
  let tail (k : Nat) : UInt8 := UInt8.ofNat (0x80 + n / Nat.pow 64 k % 64)
  if n < 0x80 then [UInt8.ofNat n]
  else if n < 0x800 then [UInt8.ofNat (0xC0 + n / 64), tail 0]
  else if n < 0x10000 then [UInt8.ofNat (0xE0 + n / 4096), tail 1, tail 0]
  else [UInt8.ofNat (0xF0 + n / 262144), tail 2, tail 1, tail 0]

/-- The bytes of a text. -/
def encode (t : Text) : List UInt8 := t.flatMap encodeChar

/-- The wording of a reason. -/
def Reason.message : Reason → Text
  | badStart => "invalid start byte".toList
  | badContinuation => "invalid continuation byte".toList
  | unexpectedEnd => "unexpected end of data".toList

/-- The wording of a fault. -/
def Fault.message (f : Fault) : Text :=
  let what := if f.width = 1 then
      "byte 0x".toList ++ hex 2 f.first.toNat ++ " in position ".toList ++ ofNat f.place
    else "bytes in position ".toList ++ ofNat f.place ++ '-' :: ofNat (f.place + f.width - 1)
  "'utf-8' codec can't decode ".toList ++ what ++ ": ".toList ++ f.reason.message

end TreeSieve.Text.Utf8

namespace TreeSieve.Text

/-- A text with one line feed for each line break written with carriage returns. -/
def plainBreaks : Text → Text
  | [] => []
  | '\r' :: cs =>
    match cs with
    | '\n' :: _ => plainBreaks cs
    | _ => '\n' :: plainBreaks cs
  | c :: cs => c :: plainBreaks cs

end TreeSieve.Text
