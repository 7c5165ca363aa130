import TreeSieve.Filter

/-!
# Session

Passes one after the other over a changing list of items.  A session keeps the patterns it has read
and the decisions of the last pass, so that each pass reports only what changed.
-/

namespace TreeSieve

/-- The state between passes. -/
structure Session where
  items : List Item := []
  settings : Settings := {}
  cache : Regex.Cache := []
  /-- The decisions of the last pass. -/
  decisions : DecisionMap := []

namespace Session

/-- What a pass reports. -/
structure Report where
  changes : List DecisionMap.Change
  count : Nat
  summary? : Option Text

/-- Makes a pass. When it fails, the decisions of the pass before stay. -/
def filter (s : Session) (query : Query) : Except Regex.Failure Report × Session :=
  match Filter.evaluate s.settings s.items query s.cache with
  | (.error e, cache) => (.error e, { s with cache })
  | (.ok m, cache) =>
    (.ok ⟨DecisionMap.sortChanges (s.decisions.changes m), m.countMatches,
      Filter.summary? s.settings m⟩, { s with cache, decisions := m })

/-- The items that the last pass decided, with the places to highlight in their names. -/
def highlights (s : Session) (query : Query) : List (Text × List Nat) :=
  s.items.filterMap fun i =>
    (s.decisions.get? i.path).map fun d => (i.path, Filter.highlights s.settings i d query)

/-- Adds an item at the end. -/
def add (s : Session) (i : Item) : Session := { s with items := s.items ++ [i] }

/-- Drops all items with a path. -/
def remove (s : Session) (path : Text) : Session :=
  { s with items := s.items.filter (·.path ≠ path) }

/-- Reads a pattern through the cache. -/
def pattern (s : Session) (t : Text) (flags : Regex.Flags) :
    Except Regex.Failure (Option Regex.Pattern) × Session :=
  let (r, cache) := s.cache.get t flags
  (r, { s with cache })

/-- Forgets the patterns read so far. -/
def clear (s : Session) : Session := { s with cache := [] }

end Session

end TreeSieve
