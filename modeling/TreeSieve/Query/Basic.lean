import TreeSieve.Text.Quoted
import TreeSieve.Value.Coerce

/-!
# Query — Basic

A query: what is sought, as lists of criteria.  Search terms and phrases look at names, patterns at
names and paths, and each facet — path, folder, file, tag — has values that allow and values that
rule out.  Content values are kept and never looked at.

A query is made from its criteria (`Query.ofCriteria`), so each list is the criteria of its sort in
their order.  A blank query has no criteria and filters nothing.
-/

namespace TreeSieve

/-- The facets of an item that a query can allow or rule out by value. -/
inductive Facet where
  | path
  | folder
  | file
  | tag
  deriving DecidableEq, Repr

/-- One criterion of a query. -/
inductive Criterion where
  | term (t : Text)
  | phrase (t : Text)
  | pattern (t : Text)
  | allow (f : Facet) (value : Text)
  | ruleOut (f : Facet) (value : Text)
  | content (value : Text)
  deriving DecidableEq, Repr

/-- A query. -/
structure Query where
  terms : List Text := []
  allowPaths : List Text := []
  ruleOutPaths : List Text := []
  allowFolders : List Text := []
  ruleOutFolders : List Text := []
  allowFiles : List Text := []
  ruleOutFiles : List Text := []
  allowTags : List Text := []
  ruleOutTags : List Text := []
  contents : List Text := []
  phrases : List Text := []
  patterns : List Text := []
  isBlank : Bool := false
  deriving DecidableEq, Repr

namespace Criterion

/-- The search term, if the criterion is one. -/
def term? : Criterion → Option Text
  | term t => some t
  | _ => none

/-- The phrase, if the criterion is one. -/
def phrase? : Criterion → Option Text
  | phrase t => some t
  | _ => none

/-- The pattern, if the criterion is one. -/
def pattern? : Criterion → Option Text
  | pattern t => some t
  | _ => none

/-- The value that a facet allows, if the criterion says so. -/
def allow? (f : Facet) : Criterion → Option Text
  | allow g v => if f = g then some v else none
  | _ => none

/-- The value that a facet rules out, if the criterion says so. -/
def ruleOut? (f : Facet) : Criterion → Option Text
  | ruleOut g v => if f = g then some v else none
  | _ => none

/-- The content value, if the criterion is one. -/
def content? : Criterion → Option Text
  | content v => some v
  | _ => none

end Criterion

namespace Query

/-- The query with the given criteria. -/
def ofCriteria (cs : List Criterion) : Query where
  terms := cs.filterMap (·.term?)
  allowPaths := cs.filterMap (·.allow? .path)
  ruleOutPaths := cs.filterMap (·.ruleOut? .path)
  allowFolders := cs.filterMap (·.allow? .folder)
  ruleOutFolders := cs.filterMap (·.ruleOut? .folder)
  allowFiles := cs.filterMap (·.allow? .file)
  ruleOutFiles := cs.filterMap (·.ruleOut? .file)
  allowTags := cs.filterMap (·.allow? .tag)
  ruleOutTags := cs.filterMap (·.ruleOut? .tag)
  contents := cs.filterMap (·.content?)
  phrases := cs.filterMap (·.phrase?)
  patterns := cs.filterMap (·.pattern?)

/-- The query of a blank text. -/
def blank : Query where
  isBlank := true

/-- The lists of a query with their names, in the order of their listing. -/
def lists (q : Query) : List (Text × List Text) :=
  [("search_terms".toList, q.terms),
   ("path_includes".toList, q.allowPaths), ("path_excludes".toList, q.ruleOutPaths),
   ("folder_includes".toList, q.allowFolders), ("folder_excludes".toList, q.ruleOutFolders),
   ("file_includes".toList, q.allowFiles), ("file_excludes".toList, q.ruleOutFiles),
   ("tag_includes".toList, q.allowTags), ("tag_excludes".toList, q.ruleOutTags),
   ("content_includes".toList, q.contents),
   ("exact_phrases".toList, q.phrases), ("regex_patterns".toList, q.patterns)]

/-- Whether any list holds a value. -/
def hasCriteria (q : Query) : Bool := q.lists.any fun (_, vs) => !vs.isEmpty

/-- Whether any value rules out. -/
def hasExclusions (q : Query) : Bool :=
  !(q.ruleOutPaths.isEmpty && q.ruleOutFolders.isEmpty && q.ruleOutFiles.isEmpty
    && q.ruleOutTags.isEmpty)

/-- Whether any list but the search terms and the contents holds a value. -/
def hasConstraints (q : Query) : Bool :=
  !(q.allowPaths.isEmpty && q.allowFolders.isEmpty && q.allowFiles.isEmpty && q.allowTags.isEmpty
    && q.phrases.isEmpty && q.patterns.isEmpty) || q.hasExclusions

/-- The text of a query: its lists that hold values, each with its values in quoted form. -/
def toText (q : Query) : Text :=
  if q.isBlank then "Query: <empty>".toList
  else
    let part (name : Text) (vs : List Text) : Text :=
      name ++ '=' :: '[' :: Text.join ", ".toList (vs.map Text.quoted) ++ [']']
    "Query: ".toList ++ Text.join " | ".toList
      ((q.lists.filter fun (_, vs) => !vs.isEmpty).map fun (name, vs) => part name vs)

/-! ### Reading queries -/

/-- The type name of queries in rejections. -/
def typeName : Text := "StructuredQuery".toList

/-- The fields of a query read from the entries of a record, without regard to each other. -/
def fieldsOfEntries (entries : List (Value × Value)) : Checked Query :=
  let list (name : String) : Checked (List Text) := Value.field entries name.toList Value.asTexts []
  let and {α β : Type} (f : Checked (α → β)) (x : Checked α) : Checked β :=
    Checked.both (fun f x => f x) f x
  and (and (and (and (and (and (and (and (and (and (and (and (and (.ok Query.mk)
    (list "search_terms"))
    (list "path_includes")) (list "path_excludes"))
    (list "folder_includes")) (list "folder_excludes"))
    (list "file_includes")) (list "file_excludes"))
    (list "tag_includes")) (list "tag_excludes"))
    (list "content_includes"))
    (list "exact_phrases")) (list "regex_patterns"))
    (Value.field entries "is_empty_query".toList Value.asBool false)

/-- Reads a query from a value. A blank query with criteria is turned down. -/
def ofValue : Value → Except Rejection Query
  | .map entries =>
    match fieldsOfEntries entries with
    | .error fs => .error (.faults typeName fs)
    | .ok q =>
      if q.isBlank && q.hasCriteria then
        .error (Rejection.whole typeName
          (.rule "An empty query cannot carry search criteria".toList))
      else .ok q
  | _ => .error (Rejection.whole typeName (.notRecord typeName))

end Query

end TreeSieve
