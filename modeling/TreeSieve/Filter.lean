import TreeSieve.Decision
import TreeSieve.Query.Parser
import TreeSieve.Search
import TreeSieve.Settings

/-!
# Filter

From what a search accepts to what is shown.  An accepted item is shown with all folders around it,
and an accepted folder shows what lies directly in it.  The root is shown with any match and is
never a match itself.

The folders around the accepted items are collected by walks upwards (`climb`) that stop at the
first folder already collected.
-/

namespace TreeSieve

namespace Path

/-- All folders around a path, the nearest first and the root last; the root has none. -/
def ancestors (p : Text) : List Text :=
  if h : p = root then [] else
    have : (parent p = root ∧ p ≠ root) ∨ (parent p).length < p.length :=
      (parent_eq_root_or_length_lt p).imp (⟨·, h⟩) id
    parent p :: ancestors (parent p)
termination_by if p = root then 0 else p.length + 1
decreasing_by
  rw [if_neg h]
  split
  · omega
  · rcases this with ⟨hr, _⟩ | hl
    · contradiction
    · omega

end Path

namespace Filter

/-- Adds the folders around a path to a collection, upwards to the root or to the first one already
there. -/
def climb (found : List Text) (p : Text) : List Text :=
  if h : p = Path.root then found
  else if found.contains (Path.parent p) then found
  else
    have : (Path.parent p = Path.root ∧ p ≠ Path.root) ∨ (Path.parent p).length < p.length :=
      (Path.parent_eq_root_or_length_lt p).imp (⟨·, h⟩) id
    climb (Path.parent p :: found) (Path.parent p)
termination_by if p = Path.root then 0 else p.length + 1
decreasing_by
  rw [if_neg h]
  split
  · omega
  · rcases this with ⟨hr, _⟩ | hl
    · contradiction
    · omega

/-- The folders to be shown because of what is in them: the folders in which files match, and all
folders around those and around the folders that match. -/
def revealers (fileParents folders : List Text) : List Text :=
  let seeds := fileParents.eraseDups
  folders.foldl climb (seeds.foldl climb seeds)

/-- What a search found in a list of items. -/
structure Findings where
  /-- The paths of the files that match. -/
  files : List Text
  /-- The paths of the folders that match. -/
  folders : List Text
  /-- The paths of the folders on the way to a match. -/
  around : List Text

/-- The items that a search accepts; the root is not among them. -/
def accepted (s : Search) (items : List Item) : List Item :=
  items.filter fun i => !i.isRoot && s.accepts i

/-- What a search finds in a list of items. -/
def find (s : Search) (items : List Item) : Findings :=
  let found := accepted s items
  let files := found.filter (!·.isFolder)
  let folders := (found.filter (·.isFolder)).map (·.path)
  { files := files.map (·.path)
    folders
    around := revealers (files.map (·.parent)) folders }

/-- The decision for an item: the first rule that applies. -/
def classify (f : Findings) (i : Item) : Decision :=
  if f.folders.contains i.path then .folderMatch
  else if f.files.contains i.path then .fileMatch
  else if i.isFolder && f.around.contains i.path then .containsMatch
  else if !i.isRoot && f.folders.contains i.parent then .revealed
  else .hidden

/-- The decisions for a list of items. -/
def decide (s : Search) (items : List Item) : DecisionMap :=
  let f := find s items
  DecisionMap.ofList (items.map fun i => (i.path, classify f i))

/-- The decisions for a list of items, if the search stumbles over none of them but the root. -/
def answer (s : Search) (items : List Item) : Except Regex.Failure DecisionMap :=
  if items.any fun i => !i.isRoot && s.stumbles i then .error .crossed else .ok (decide s items)

/-- One pass of a query over a list of items. A blank query decides nothing. -/
def evaluate (settings : Settings) (items : List Item) (query : Query) (cache : Regex.Cache)
    (hasRoom : Text → Bool := fun _ => true) : Except Regex.Failure DecisionMap × Regex.Cache :=
  if query.isBlank then (.ok [], cache)
  else
    let (s, cache) := Search.prepare query settings.caseSensitive cache hasRoom
    (s.bind (answer · items), cache)

/-- One pass of a query text over a list of items. -/
def pass (settings : Settings) (items : List Item) (text? : Option Text) (cache : Regex.Cache)
    (hasRoom : Text → Bool := fun _ => true) : Except Regex.Failure DecisionMap × Regex.Cache :=
  evaluate settings items (Query.ofText? text?) cache hasRoom

/-- How many items match, if that is to be reported and any does. -/
def summary? (settings : Settings) (m : DecisionMap) : Option Text :=
  let n := m.countMatches
  if settings.showCount && n ≠ 0 then some (Text.ofNat n ++ " matches".toList) else none

/-- The places in an item's name that the first fitting search term takes. -/
def highlights (settings : Settings) (i : Item) (d : Decision) (query : Query) : List Nat :=
  if !settings.highlight || d.kind = .none then []
  else
    match (query.terms.filterMap (Subsequence.positions? settings.caseSensitive i.name)).find?
        (!·.isEmpty) with
    | some ps => ps
    | none => []

end Filter

end TreeSieve
