import TreeSieve.Regex.Reader

/-!
# Regex — Cache

A cache of patterns that have been read, by pattern and switches.  A pattern with a mistake is kept
too, as one without an expression; other failures are not kept.

Reading a pattern descends into its groups, and whether there is room for that (`hasRoom`) is not for
the pattern alone to say.  A pattern that is kept needs no room any more.
-/

namespace TreeSieve.Regex

/-- The patterns read so far, by text and switches; a mistaken pattern has no expression. -/
abbrev Cache := List ((Text × Flags) × Option Pattern)

/-- The outcome of reading a pattern when a mistake counts as an outcome. -/
def read? (flags : Flags) (pattern : Text) : Except Failure (Option Pattern) :=
  match read flags pattern with
  | .ok p => .ok (some p)
  | .error (.mistake _) => .ok none
  | .error e => .error e

/-- The outcome of reading a pattern where there may be no room for it. -/
def readWithin (hasRoom : Text → Bool) (flags : Flags) (pattern : Text) :
    Except Failure (Option Pattern) :=
  if hasRoom pattern then read? flags pattern else .error .noRoom

namespace Cache

/-- The expression of a pattern, and the cache with it. -/
def get (cache : Cache) (pattern : Text) (flags : Flags) (hasRoom : Text → Bool := fun _ => true) :
    Except Failure (Option Pattern) × Cache :=
  match cache.lookup (pattern, flags) with
  | some p? => (.ok p?, cache)
  | none =>
    match readWithin hasRoom flags pattern with
    | .ok p? => (.ok p?, cache ++ [((pattern, flags), p?)])
    | .error e => (.error e, cache)

end Cache

end TreeSieve.Regex
