import TreeSieve.Yaml.Failure

/-!
# Yaml — Token

The tokens of a document.  Indentation is told by tokens too: a token starts each block, and `blockEnd`
ends it.  A text that cannot be cut into tokens to its end has a `broken` token where the trouble is,
so that a grammar error before it is noticed first.
-/

namespace TreeSieve.Yaml

/-- A line that starts with a percent sign. -/
inductive Directive where
  | version (major : Nat)
  | tag (handle start : Text)
  | other
  deriving DecidableEq, Repr

/-- A token of a document. -/
inductive Token where
  | directive (d : Directive)
  | documentStart
  | documentEnd
  | blockSequenceStart
  | blockMappingStart
  | blockEnd
  | flowSequenceStart
  | flowSequenceEnd
  | flowMappingStart
  | flowMappingEnd
  | blockEntry
  | flowEntry
  | key
  | value
  | alias (name : Text)
  | anchor (name : Text)
  /-- A tag; one without a handle is spelled out in full. -/
  | tag (handle? : Option Text) (suffix : Text)
  /-- A scalar, which is plain when it has no quotation marks around it. -/
  | scalar (plain : Bool) (text : Text)
  | streamEnd
  | broken (f : Failure)
  deriving DecidableEq, Repr

end TreeSieve.Yaml
