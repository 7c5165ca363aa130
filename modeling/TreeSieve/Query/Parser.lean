import TreeSieve.Path
import TreeSieve.Query.Basic
import TreeSieve.Query.Piece
import TreeSieve.Text.Letter

/-!
# Query — Parser

From a query text to a query.  Each token gives at most one criterion: an operator without a value
or with an unknown keyword gives none, and so does the exclusion of contents.  A text of blanks
gives the blank query.
-/

namespace TreeSieve.Query

/-- A value without blanks around it, and without quotation marks around it and blanks inside
them. -/
def cleanValue (t : Text) : Text :=
  let v := Text.trim t
  match v with
  | '"' :: rest =>
    match rest.reverse with
    | '"' :: inner => Text.trim inner.reverse
    | _ => v
  | _ => v

/-- The facet with a keyword. -/
def facet? (keyword : Text) : Option Facet :=
  if keyword = "path".toList then some .path
  else if keyword = "folder".toList then some .folder
  else if keyword = "file".toList then some .file
  else if keyword = "tag".toList then some .tag
  else none

/-- The criterion of a keyword in lower case and a value. -/
def operatorCriterion? (negated : Bool) (keyword value : Text) : Option Criterion :=
  let v := if keyword = "tag".toList then Tag.normalize (cleanValue value) else cleanValue value
  if v.isEmpty then none
  else match facet? keyword with
    | some f => some (if negated then .ruleOut f v else .allow f v)
    | none => if keyword = "content".toList && !negated then some (.content v) else none

/-- The criterion of an operator. -/
def criterionOfOperator? (t : Text) : Option Criterion :=
  let (negated, body) := match t with
    | '-' :: rest => (true, rest)
    | rest => (false, rest)
  match Text.cut? ':' body with
  | some (keyword, value) => operatorCriterion? negated (Text.asciiLower keyword) value
  | none => none

/-- The criterion of a token. -/
def Token.criterion? : Token → Option Criterion
  | term t => some (.term t)
  | phrase t => some (.phrase t)
  | pattern t => some (.pattern t)
  | operator t => criterionOfOperator? t

/-- The query of a text. -/
def parse (t : Text) : Query :=
  if (Text.trim t).isEmpty then blank
  else ofCriteria ((tokens t).filterMap (·.criterion?))

/-- The query of a text that may be missing. -/
def ofText? : Option Text → Query
  | some t => parse t
  | none => blank

end TreeSieve.Query
