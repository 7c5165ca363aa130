import TreeSieve.Path

/-!
# Glob

Patterns for paths, as ignore lists hold them.  A pattern is read into a `Glob`, a list of segments
for the components of a path, and written out as a regular expression over whole paths
(`Glob.regex`).

A pattern with a slash at its start is tied to the root; one without any slash, or with `**/` at its
start, floats: it fits at any depth.  What fits a folder fits everything below it.
-/

namespace TreeSieve

namespace Glob

/-- A part of the pattern of one name. -/
inductive Part where
  /-- Any characters. -/
  | anyRun
  /-- Any one character. -/
  | anyOne
  /-- One character of a set, or one outside it. -/
  | oneOf (negated : Bool) (body : Text)
  | char (c : Char)
  deriving DecidableEq, Repr

/-- The pattern of one component, or of any number of them. -/
inductive Segment where
  | name (parts : List Part)
  | anyDepth
  deriving DecidableEq, Repr

end Glob

/-- A pattern for paths. One without segments fits nothing. -/
structure Glob where
  floating : Bool
  segments : List Glob.Segment
  deriving DecidableEq, Repr

namespace Glob

/-- A set behind its opening bracket, and the rest; `none` when it is not closed. A closing bracket
right behind the mark of negation closes the set. -/
def closedSet? (t : Text) : Option (Part × Text) :=
  let (negated, body) : Bool × Text := match t with
    | '!' :: r => (true, r)
    | '^' :: r => (true, r)
    | r => (false, r)
  (Text.cut? ']' body).map fun (body, rest) => (.oneOf negated body, rest)

theorem closedSet?_length {t rest : Text} {p : Part} (h : closedSet? t = some (p, rest)) :
    rest.length < t.length := by
  obtain ⟨⟨body, r⟩, hcut, heq⟩ := Option.map_eq_some_iff.1 h
  cases heq
  have hlen := Path.cut?_length hcut
  revert hlen
  split <;> (simp only [List.length_cons]; omega)

/-- The parts of the pattern of a name. A bracket that is not closed stands for itself. -/
def parts : Text → List Part
  | [] => []
  | c :: cs =>
    if c = '*' then .anyRun :: parts cs
    else if c = '?' then .anyOne :: parts cs
    else if c = '[' then
      match _h : closedSet? cs with
      | some (set, rest) => set :: parts rest
      | none => .char c :: parts cs
    else .char c :: parts cs
termination_by t => t.length
decreasing_by
  · simp
  · simp
  · exact Nat.lt_succ_of_lt (closedSet?_length _h)
  · simp
  · simp

/-- The segment of a component of a pattern. -/
def Segment.ofText (t : Text) : Segment := if t = ['*', '*'] then .anyDepth else .name (parts t)

/-- Reads a pattern. -/
def ofText (t : Text) : Glob :=
  let rooted := t.head? = some '/'
  let body := Text.dropAround (· == '/') t
  let body := if Text.endsWith body "/**".toList then body.take (body.length - 3) else body
  let deep := !rooted && "**/".toList.isPrefixOf body
  let inner := if deep then body.drop 3 else body
  { floating := deep || (!rooted && !body.contains '/')
    segments := if inner.isEmpty then [] else (Text.parts '/' inner).map Segment.ofText }

/-! ### Writing a pattern as a regular expression -/

/-- Whether a character means something in a regular expression. -/
def isSpecial (c : Char) : Bool :=
  "()[]\x7b\x7d?*+-|^$\\.&~# \t\n\r\x0b\x0c".toList.contains c

/-- A character as a regular expression. -/
def escape (c : Char) : Text := if isSpecial c then ['\\', c] else [c]

/-- A part as a regular expression. A name holds no slash, so wildcards leave it out. -/
def Part.regex : Part → Text
  | anyRun => "[^/]*".toList
  | anyOne => "[^/]".toList
  | oneOf negated body =>
    let body := body.flatMap fun c => if c = '\\' then ['\\', '\\'] else [c]
    '[' :: (if negated then ['^'] else []) ++ body ++ [']']
  | char c => escape c

/-- Segments as a regular expression. Any depth needs a component only at the end. -/
def segmentsRegex : List Segment → Text
  | [] => []
  | [.anyDepth] => ".*".toList
  | [.name ps] => ps.flatMap Part.regex
  | .anyDepth :: rest => "(?:[^/]+/)*".toList ++ segmentsRegex rest
  | .name ps :: rest => ps.flatMap Part.regex ++ '/' :: segmentsRegex rest

/-- A pattern as a regular expression over whole paths. -/
def regex (g : Glob) : Text :=
  if g.segments.isEmpty then "(?!)".toList
  else
    (if g.floating then "(?:^|/)".toList else ['^'])
      ++ segmentsRegex g.segments ++ "(?:/.*)?$".toList

end Glob

end TreeSieve
