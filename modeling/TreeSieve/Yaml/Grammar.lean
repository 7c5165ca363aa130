import TreeSieve.Yaml.Lexer
import TreeSieve.Yaml.Node

/-!
# Yaml — Grammar

From the tokens of a document to its tree.  The functions for the parts of a document call each other
and count down fuel, of which `document` gives more than the tokens can use up.  Anchors and aliases
are resolved on the way: an alias stands for the node that its anchor named, or for a node around it.
-/

namespace TreeSieve.Yaml

/-- What an anchor names. -/
inductive Anchored where
  | node (n : Node)
  /-- A node that is not complete. -/
  | around (isMapping : Bool)

/-- What is left to be read, and what is known from the part before. -/
structure Reading where
  tokens : List Token
  anchors : List (Text × Anchored) := []
  /-- What tag handles stand for. -/
  handles : List (Text × Text) := []

/-- A part of the reading. -/
abbrev Reads (α : Type) := Reading → Scans (α × Reading)

namespace Reading

/-- The next token. At the end of the tokens the document is malformed. -/
def next (r : Reading) : Token := r.tokens.head?.getD (.broken .malformed)

/-- The reading behind the next token. -/
def rest (r : Reading) : Reading := { r with tokens := r.tokens.drop 1 }

/-- A token that cannot stand here. -/
def unexpected {α : Type} (r : Reading) : Scans α :=
  match r.next with
  | .broken f => .error f
  | _ => malformed

/-- The reading with a meaning for an anchor, if there is one. -/
def anchored (r : Reading) (anchor? : Option Text) (a : Anchored) : Reading :=
  match anchor? with
  | some name => { r with anchors := (name, a) :: r.anchors }
  | none => r

end Reading

/-- The properties of a node: its anchor and its tag, in either order. -/
def properties (r : Reading) : (Option Text × Option (Option Text × Text)) × Reading :=
  match r.next with
  | .anchor a =>
    match r.rest.next with
    | .tag h s => ((some a, some (h, s)), r.rest.rest)
    | _ => ((some a, none), r.rest)
  | .tag h s =>
    match r.rest.next with
    | .anchor a => ((some a, some (h, s)), r.rest.rest)
    | _ => ((none, some (h, s)), r.rest)
  | _ => ((none, none), r)

/-- The name of a tag. -/
def tagName (r : Reading) : Option Text × Text → Scans Text
  | (none, suffix) => .ok suffix
  | (some handle, suffix) =>
    match r.handles.lookup handle with
    | some start => .ok (start ++ suffix)
    | none => malformed

/-- The tag of a node: the one given, or `otherwise` when none is given or an exclamation mark. -/
def tagOr (name? : Option Text) (otherwise : Tag) : Tag :=
  match name? with
  | none => otherwise
  | some name => if name = ['!'] then otherwise else .ofName name

/-- A scalar that is left out. -/
def emptyScalar : Node := .scalar (.ofPlain []) []

mutual

/-- A node. `block` says that a block may begin, and `loose` that the entries of a sequence may begin
without one. -/
def node : (fuel : Nat) → (block loose : Bool) → Reads Node
  | 0, _, _, _ => malformed
  | fuel + 1, block, loose, r =>
    match r.next with
    | .alias name =>
      match r.anchors.lookup name with
      | some (.node n) => .ok (n, r.rest)
      | some (.around isMapping) => .ok (.enclosing isMapping, r.rest)
      | none => malformed
    | _ => do
      let ((anchor?, tag?), r) := properties r
      let name? ← match tag? with
        | some tag => (tagName r tag).map some
        | none => .ok none
      if anchor?.any fun a => (r.anchors.lookup a).isSome then
        match r.next with
        | .broken f => .error f
        | _ => malformed
      else
        let scalar (n : Node) (r : Reading) : Scans (Node × Reading) :=
          .ok (n, r.anchored anchor? (.node n))
        let sequence (items : Reads (List Node)) (r : Reading) : Scans (Node × Reading) := do
          let (xs, r) ← items (r.anchored anchor? (.around false))
          scalar (.sequence (tagOr name? .seq) xs) r
        let mapping (entries : Reads (List (Node × Node))) (r : Reading) :
            Scans (Node × Reading) := do
          let (es, r) ← entries (r.anchored anchor? (.around true))
          scalar (.mapping (tagOr name? .map) es) r
        match r.next with
        | .blockEntry => if loose then sequence (looseEntries fuel) r else absent fuel anchor? name? r
        | .scalar plain t =>
          let otherwise := if plain || name?.isSome then Tag.ofPlain t else .str
          scalar (.scalar (tagOr name? otherwise) t) r.rest
        | .flowSequenceStart => sequence (flowItems fuel true) r.rest
        | .flowMappingStart => mapping (flowEntries fuel true) r.rest
        | .blockSequenceStart =>
          if block then sequence (blockItems fuel) r.rest else absent fuel anchor? name? r
        | .blockMappingStart =>
          if block then mapping (blockEntries fuel) r.rest else absent fuel anchor? name? r
        | _ => absent fuel anchor? name? r

/-- A node of which nothing but its properties stands here. -/
def absent : (fuel : Nat) → (anchor? name? : Option Text) → Reads Node
  | _, anchor?, name?, r =>
    match r.next with
    | .broken f => .error f
    | _ =>
      if anchor?.isNone && name?.isNone then malformed
      else
        let n := Node.scalar (tagOr name? (.ofPlain [])) []
        .ok (n, r.anchored anchor? (.node n))

/-- A node of a block, or an empty scalar before one of the tokens given. -/
def nodeOrEmpty : (fuel : Nat) → (block loose : Bool) → (ends : List Token) → Reads Node
  | 0, _, _, _, _ => malformed
  | fuel + 1, block, loose, ends, r =>
    if ends.contains r.next then .ok (emptyScalar, r) else node fuel block loose r

/-- The entries of a block sequence. -/
def blockItems : (fuel : Nat) → Reads (List Node)
  | 0, _ => malformed
  | fuel + 1, r =>
    match r.next with
    | .blockEntry => do
      let (x, r) ← nodeOrEmpty fuel true false [.blockEntry, .blockEnd] r.rest
      let (xs, r) ← blockItems fuel r
      return (x :: xs, r)
    | .blockEnd => .ok ([], r.rest)
    | _ => r.unexpected

/-- The entries of a sequence that stands in a mapping without a block of its own. -/
def looseEntries : (fuel : Nat) → Reads (List Node)
  | 0, _ => malformed
  | fuel + 1, r =>
    match r.next with
    | .blockEntry => do
      let (x, r) ← nodeOrEmpty fuel true false [.blockEntry, .key, .value, .blockEnd] r.rest
      let (xs, r) ← looseEntries fuel r
      return (x :: xs, r)
    | .broken f => .error f
    | _ => .ok ([], r)

/-- The value of a mapping entry, when a colon stands before it. -/
def blockValue : (fuel : Nat) → Reads Node
  | 0, _ => malformed
  | fuel + 1, r =>
    match r.next with
    | .value => nodeOrEmpty fuel true true [.key, .value, .blockEnd] r.rest
    | .broken f => .error f
    | _ => .ok (emptyScalar, r)

/-- The entries of a block mapping. -/
def blockEntries : (fuel : Nat) → Reads (List (Node × Node))
  | 0, _ => malformed
  | fuel + 1, r => do
    match r.next with
    | .key =>
      let (k, r) ← nodeOrEmpty fuel true true [.key, .value, .blockEnd] r.rest
      let (v, r) ← blockValue fuel r
      let (es, r) ← blockEntries fuel r
      return ((k, v) :: es, r)
    | .blockEnd => return ([], r.rest)
    | _ => r.unexpected

/-- The value of an entry in brackets, when a colon stands before it. -/
def flowValue : (fuel : Nat) → (close : Token) → Reads Node
  | 0, _, _ => malformed
  | fuel + 1, close, r =>
    match r.next with
    | .value => nodeOrEmpty fuel false false [.flowEntry, close] r.rest
    | .broken f => .error f
    | _ => .ok (emptyScalar, r)

/-- The items of a sequence in brackets; behind the first one a comma comes before each. -/
def flowItems : (fuel : Nat) → (first : Bool) → Reads (List Node)
  | 0, _, _ => malformed
  | fuel + 1, first, r => do
    if r.next = .flowSequenceEnd then return ([], r.rest)
    else
      let r ← if first then pure r else if r.next = .flowEntry then pure r.rest else r.unexpected
      match r.next with
      | .flowSequenceEnd => return ([], r.rest)
      | .key =>
        let (k, r) ← nodeOrEmpty fuel false false [.value, .flowEntry, .flowSequenceEnd] r.rest
        let (v, r) ← flowValue fuel .flowSequenceEnd r
        let (xs, r) ← flowItems fuel false r
        return (.mapping .map [(k, v)] :: xs, r)
      | _ =>
        let (x, r) ← node fuel false false r
        let (xs, r) ← flowItems fuel false r
        return (x :: xs, r)

/-- The entries of a mapping in braces; behind the first one a comma comes before each. -/
def flowEntries : (fuel : Nat) → (first : Bool) → Reads (List (Node × Node))
  | 0, _, _ => malformed
  | fuel + 1, first, r => do
    if r.next = .flowMappingEnd then return ([], r.rest)
    else
      let r ← if first then pure r else if r.next = .flowEntry then pure r.rest else r.unexpected
      match r.next with
      | .flowMappingEnd => return ([], r.rest)
      | .key =>
        let (k, r) ← nodeOrEmpty fuel false false [.value, .flowEntry, .flowMappingEnd] r.rest
        let (v, r) ← flowValue fuel .flowMappingEnd r
        let (es, r) ← flowEntries fuel false r
        return ((k, v) :: es, r)
      | _ =>
        let (k, r) ← node fuel false false r
        let (es, r) ← flowEntries fuel false r
        return ((k, emptyScalar) :: es, r)

end

/-! ### Documents -/

/-- The handles that every document knows. -/
def commonHandles : List (Text × Text) := [(['!'], ['!']), (['!', '!'], Tag.home)]

/-- The directives before a document; `version` says that one of them gave a version. -/
def directives : (version : Bool) → (handles : List (Text × Text)) → List Token →
    Scans (List (Text × Text) × List Token)
  | version, handles, .directive d :: ts =>
    match d with
    | .version major =>
      if version || major ≠ 1 then malformed else directives true handles ts
    | .tag handle start =>
      if (handles.lookup handle).isSome then malformed
      else directives version ((handle, start) :: handles) ts
    | .other => directives version handles ts
  | _, handles, ts => .ok (handles, ts)

/-- A document with its directives and the mark at its start. -/
def explicitDocument (ts : List Token) : Scans (Node × List Token) := do
  let (handles, ts) ← directives false [] ts
  let r : Reading := { tokens := ts, handles := handles ++ commonHandles }
  match r.next with
  | .documentStart =>
    let ends : List Token := [.documentStart, .documentEnd, .streamEnd]
    let atDirective := match r.rest.next with
      | .directive _ => true
      | _ => false
    if atDirective then return (emptyScalar, r.rest.tokens)
    else
      let (n, r) ← nodeOrEmpty (8 * ts.length + 8) true false ends r.rest
      return (n, r.tokens)
  | _ => r.unexpected

/-- The end of the stream: nothing but marks for the end of the document come before it. -/
def streamEnds : List Token → Scans Unit
  | .documentEnd :: ts => streamEnds ts
  | .streamEnd :: _ => .ok ()
  | .broken f :: _ => .error f
  | _ => malformed

/-- The only document of a text, if there is one. -/
def document (t : Text) : Scans (Option Node) :=
  let ts := tokens t
  match ts with
  | .streamEnd :: _ => .ok none
  | .directive _ :: _ | .documentStart :: _ => do
    let (n, rest) ← explicitDocument ts
    streamEnds rest
    return some n
  | _ => do
    let (n, r) ← node (8 * ts.length + 8) true false { tokens := ts, handles := commonHandles }
    streamEnds r.tokens
    return some n

end TreeSieve.Yaml
