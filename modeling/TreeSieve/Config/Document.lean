import TreeSieve.Config
import TreeSieve.Yaml.Style

/-!
# Config — Document

A configuration as a document: a title, and for each section a comment and the options of the section
line by line.
-/

namespace TreeSieve.Config

/-- The line of an option that is on or off. -/
def flagLine (name : Text) (b : Bool) : Text :=
  ' ' :: ' ' :: name ++ ": ".toList ++ (if b then "true" else "false").toList

/-- The line of a limit. -/
def limitLine (name : Text) (n : Nat) : Text :=
  ' ' :: ' ' :: name ++ ": ".toList ++ Text.ofNat n

/-- The line of a member of a list. -/
def memberLine (t : Text) : Text := "  - ".toList ++ Yaml.writeScalar 4 4 t

/-- The lines of an option with a list of texts. -/
def listLines (name : Text) (ts : List Text) : List Text :=
  if ts.isEmpty then [' ' :: ' ' :: name ++ ": []".toList]
  else (' ' :: ' ' :: name ++ [':']) :: ts.map memberLine

/-- The lines of settings. -/
def settingsLines (s : Settings) : List Text :=
  [flagLine Settings.caseName s.caseSensitive, flagLine Settings.countName s.showCount,
    flagLine Settings.highlightName s.highlight]

/-- The lines of options. -/
def optionsLines (o : Snapshot.Options) : List Text :=
  listLines Snapshot.Options.ignoreName o.ignore
    ++ [flagLine Snapshot.Options.hiddenName o.showHidden,
      flagLine Snapshot.Options.readTagsName o.readTags]
    ++ listLines Snapshot.Options.extensionsName o.tagExtensions
    ++ [limitLine Snapshot.Options.maxItemsName o.maxItems,
      limitLine Snapshot.Options.maxBytesName o.maxBytes]

/-- The lines of a section under a comment, with an empty one behind them. -/
def sectionLines (comment : String) (name : Text) (lines : List Text) : List Text :=
  ("# ".toList ++ comment.toList) :: (name ++ [':']) :: lines ++ [[]]

/-- A configuration as a document. -/
def toDocument (c : Config) : Text :=
  Text.join ['\n'] (["# Fuzzy Tree Filter Configuration".toList, []]
    ++ sectionLines "Matching behaviour and display hints" searchName (settingsLines c.search)
    ++ sectionLines "Filesystem snapshot settings (ignore patterns, tags, limits)" snapshotName
      (optionsLines c.snapshot))

end TreeSieve.Config
