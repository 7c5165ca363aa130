import TreeSieve.Glob
import TreeSieve.Regex.Matcher
import TreeSieve.Regex.Reader

/-!
# Ignore

Ignore lists.  Each line is a pattern that ignores paths, or takes them back in when it starts with
`!`; of the patterns that fit a path the last one decides.
-/

namespace TreeSieve

/-- A line of an ignore list, ready for use. -/
structure IgnoreRule where
  source : Text
  /-- Whether the line takes paths back in. -/
  reincludes : Bool
  pattern : Regex.Pattern

namespace IgnoreRule

/-- Whether a line takes paths back in, and its pattern. -/
def split : Text → Bool × Text
  | '!' :: t => (true, t)
  | t => (false, t)

/-- Makes a line ready. -/
def read (t : Text) : Except Regex.Failure IgnoreRule :=
  let (reincludes, glob) := split t
  (Regex.read {} (Glob.ofText glob).regex).map fun p => ⟨t, reincludes, p⟩

/-- Why a line of an ignore list cannot be used. -/
structure Refusal where
  source : Text
  failure : Regex.Failure

/-- The wording of a refusal. -/
def Refusal.message (r : Refusal) : Text :=
  "Invalid ignore pattern '".toList ++ r.source ++ "': ".toList
    ++ r.failure.message (Glob.ofText (split r.source).2).regex

/-- Makes the lines of a list ready, up to the first that cannot be used. -/
def readAll : List Text → Except Refusal (List IgnoreRule)
  | [] => .ok []
  | t :: ts =>
    match read t with
    | .error e => .error ⟨t, e⟩
    | .ok r => (readAll ts).map (r :: ·)

/-- Whether a list ignores a path. -/
def ignores (rules : List IgnoreRule) (path : Text) : Bool :=
  let p := Path.relative path
  rules.foldl (fun ignored r => if r.pattern.finds p then !r.reincludes else ignored) false

end IgnoreRule

end TreeSieve
