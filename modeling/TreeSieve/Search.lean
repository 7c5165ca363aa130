import TreeSieve.Item
import TreeSieve.Query.Basic
import TreeSieve.Regex.Cache
import TreeSieve.Regex.Matcher
import TreeSieve.Subsequence

/-!
# Search

A query made ready to be put to items: its patterns are read once (`Search.prepare`), then each item
is accepted or not.  What rules out goes first and always wins; each facet with values that allow is
a gate; the search terms come last.

A pattern with a mistake matches nothing, but the gate of the patterns stands whether or not any of
them could be read.  A search for a pattern can fail; an item on which that happens before one of the
patterns is found is one that the query stumbles over (`Search.stumbles`).
-/

namespace TreeSieve

/-- A query ready to be put to items. -/
structure Search where
  query : Query
  caseSensitive : Bool
  /-- The patterns of the query that could be read. -/
  patterns : List Regex.Pattern

namespace Search

/-- The switches under which the patterns of a query are read. -/
def flags (caseSensitive : Bool) : Regex.Flags := { ignoreCase := !caseSensitive }

/-- Reads patterns one after the other through a cache; those with a mistake are left out. -/
def readPatterns (flags : Regex.Flags) (ts : List Text) (cache : Regex.Cache)
    (hasRoom : Text → Bool := fun _ => true) :
    Except Regex.Failure (List Regex.Pattern) × Regex.Cache :=
  match ts with
  | [] => (.ok [], cache)
  | t :: ts =>
    match cache.get t flags hasRoom with
    | (.error e, cache) => (.error e, cache)
    | (.ok p?, cache) =>
      let (ps, cache) := readPatterns flags ts cache hasRoom
      (ps.map (p?.toList ++ ·), cache)

/-- Makes a query ready. -/
def prepare (query : Query) (caseSensitive : Bool) (cache : Regex.Cache)
    (hasRoom : Text → Bool := fun _ => true) : Except Regex.Failure Search × Regex.Cache :=
  let (ps, cache) := readPatterns (flags caseSensitive) query.patterns cache hasRoom
  (ps.map fun ps => ⟨query, caseSensitive, ps⟩, cache)

/-- Whether a value is a subsequence of a text. -/
def fits (s : Search) (text value : Text) : Bool := Subsequence.fits s.caseSensitive text value

/-- Whether a value rules the item out. The values for folders look at the whole path too, so what
is inside a folder goes with it when the value occurs in the path of the folder. -/
def rulesOut (s : Search) (i : Item) : Bool :=
  s.query.ruleOutPaths.any (Text.occurs · i.path)
    || s.query.ruleOutFolders.any (fun v => s.fits i.matchName v || Text.occurs v i.path)
    || s.query.ruleOutFiles.any (s.fits i.matchName)

/-- Whether a folder value allows the item: a folder by its name or its path, a file by the path of
the folder around it or the name of any folder around it. Files of the root are not allowed. -/
def allowsFolder (s : Search) (i : Item) : Bool :=
  if i.isFolder then
    s.query.allowFolders.any fun v => s.fits i.matchName v || Text.occurs v i.path
  else if i.parent = Path.root then false
  else
    let names := (Text.parts '/' i.parent).filter (!·.isEmpty)
    s.query.allowFolders.any fun v => Text.occurs v i.parent || names.any (s.fits · v)

/-- Whether a file value allows the item, which must be a file. -/
def allowsFile (s : Search) (i : Item) : Bool :=
  !i.isFolder && s.query.allowFiles.any (s.fits i.matchName)

/-- Whether a path value allows the item. -/
def allowsPath (s : Search) (i : Item) : Bool := s.query.allowPaths.any (Text.occurs · i.path)

/-- Whether the item carries one of the tags. -/
def carries (tags : List Text) (i : Item) : Bool := tags.any i.tags.contains

/-- Whether a phrase occurs in the name of the item, in any case. -/
def hasPhrase (s : Search) (i : Item) : Bool :=
  s.query.phrases.any fun p => Text.occurs (Text.lower p) (Text.lower i.matchName)

/-- Whether a pattern matches in the name or the path of the item. -/
def hasPattern (s : Search) (i : Item) : Bool :=
  s.patterns.any fun p => p.finds i.matchName || p.finds i.path

/-- Whether a search term fits the name of the item, or the path if it is a folder. -/
def hasTerm (s : Search) (i : Item) : Bool :=
  s.query.terms.any fun t => s.fits i.matchName t || (i.isFolder && s.fits i.path t)

/-- A gate is open when it has no values or when it is passed. -/
def gate (values : List Text) (passed : Bool) : Bool := values.isEmpty || passed

/-- Whether the item passes all gates before that of the patterns. -/
def admits (s : Search) (i : Item) : Bool :=
  !s.rulesOut i
    && gate s.query.allowFolders (s.allowsFolder i)
    && gate s.query.allowFiles (s.allowsFile i)
    && gate s.query.allowPaths (s.allowsPath i)
    && gate s.query.allowTags (carries s.query.allowTags i)
    && !carries s.query.ruleOutTags i
    && gate s.query.phrases (s.hasPhrase i)

/-- Whether the search accepts the item. -/
def accepts (s : Search) (i : Item) : Bool :=
  s.admits i && gate s.query.patterns (s.hasPattern i) && gate s.query.terms (s.hasTerm i)

/-- What comes of looking for patterns one after the other, each in the name and then in the path of
an item, until one is found or a search fails. -/
def findingIn (i : Item) : List Regex.Pattern → Regex.Finding
  | [] => .notFound
  | p :: ps =>
    match p.search i.matchName with
    | .notFound =>
      match p.search i.path with
      | .notFound => findingIn i ps
      | finding => finding
    | finding => finding

/-- Whether the item comes to the gate of the patterns and a search for one of them fails there. -/
def stumbles (s : Search) (i : Item) : Bool := s.admits i && findingIn i s.patterns = .crossed

end Search

end TreeSieve
