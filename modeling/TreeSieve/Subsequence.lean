import TreeSieve.Text.Casing

/-!
# Subsequence

Matching by subsequence: a pattern matches a text when its characters stand in the text in their
order, not necessarily next to each other.  `positionsFrom` is the greedy scan that takes each
character of the pattern at the first place left for it, and `fits` asks only whether the scan
ends with the pattern used up.

Letters are compared in lower case unless the case counts.
-/

namespace TreeSieve.Subsequence

/-- The text that a scan compares: as it is when the case counts, else in lower case. -/
def key (caseSensitive : Bool) (t : Text) : Text :=
  if caseSensitive then t else Text.lower t

/-- Whether the greedy scan of `hay` uses up `needle`. -/
def scan : (needle hay : Text) → Bool
  | [], _ => true
  | _ :: _, [] => false
  | n :: ns, h :: hs => if h = n then scan ns hs else scan (n :: ns) hs

/-- The places the greedy scan of `hay` takes, counted from `i`; `none` when the needle is not used
up. -/
def positionsFrom (i : Nat) : (needle hay : Text) → Option (List Nat)
  | [], _ => some []
  | _ :: _, [] => none
  | n :: ns, h :: hs =>
    if h = n then (positionsFrom (i + 1) ns hs).map (i :: ·)
    else positionsFrom (i + 1) (n :: ns) hs

/-- Whether a pattern is a subsequence of a text. -/
def fits (caseSensitive : Bool) (text pattern : Text) : Bool :=
  if pattern.isEmpty then true
  else if text.isEmpty then false
  else scan (key caseSensitive pattern) (key caseSensitive text)

/-- The places in a text that a pattern takes. -/
def positions? (caseSensitive : Bool) (text pattern : Text) : Option (List Nat) :=
  if pattern.isEmpty then some []
  else if text.isEmpty then none
  else positionsFrom 0 (key caseSensitive pattern) (key caseSensitive text)

end TreeSieve.Subsequence
