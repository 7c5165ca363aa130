import TreeSieve.Value.Key
import TreeSieve.Yaml.Grammar
import TreeSieve.Yaml.Scalar

/-!
# Yaml — Meaning

From the tree of a document to its value.  The nodes of a document are looked at level by level, and
the first fault found in this order is the one reported; a `Draft` therefore carries the faults of all
levels along with the value.

A mapping under a merge key gives its entries to the mapping around, which its own entries override.
-/

namespace TreeSieve.Yaml

/-- A value that may be wrong, with the faults found on the way and their levels. -/
structure Draft (α : Type) where
  result : α
  faults : List (Nat × Failure) := []

namespace Draft

/-- A fault at a level, and what stands in for the value. -/
def fault {α : Type} (level : Nat) (f : Failure) (a : α) : Draft α := ⟨a, [(level, f)]⟩

/-- The outcome of a part without parts of its own. -/
def ofScan {α : Type} (level : Nat) (a : α) : Scans α → Draft α
  | .ok b => ⟨b, []⟩
  | .error f => fault level f a

/-- Two parts one after the other. -/
def both {α β γ : Type} (f : α → β → γ) (x : Draft α) (y : Draft β) : Draft γ :=
  ⟨f x.result y.result, x.faults ++ y.faults⟩

/-- A part seen otherwise. -/
def map {α β : Type} (f : α → β) (x : Draft α) : Draft β := ⟨f x.result, x.faults⟩

/-- The fault of the lowest level, the first one of these. -/
def firstFault? : List (Nat × Failure) → Option (Nat × Failure)
  | [] => none
  | (n, f) :: rest =>
    match firstFault? rest with
    | some (m, g) => some (if m < n then (m, g) else (n, f))
    | none => some (n, f)

/-- The value, or the fault that is reported. -/
def settle {α : Type} (x : Draft α) : Scans α :=
  match firstFault? x.faults with
  | some (_, f) => .error f
  | none => .ok x.result

end Draft

/-- Entries of a map. -/
abbrev Entries := List (Value × Value)

/-- What the entries of a mapping give: entries of other mappings, and its own. -/
structure Contents where
  merged : Draft Entries
  own : Draft Entries
  /-- What is wrong with the merging itself. -/
  faults : List (Nat × Failure) := []

/-- Whether a node can be a key: one that stands for a scalar. -/
def Node.isKey : Node → Bool
  | .scalar tag _ | .mapping tag _ => !tag.isCollection
  | _ => false

/-- A map of entries of which later ones override earlier ones. -/
def overridden (es : Entries) : Entries := es.foldl (fun es (k, v) => Value.putKey es k v) []

mutual

/-- The text of a node that stands for a scalar: of a mapping, the value of its key `=`. -/
def scalarText : Node → Scans Text
  | .scalar _ t => .ok t
  | .mapping _ es => scalarTextOf es
  | _ => malformed

/-- The text of the first key `=` among entries. -/
def scalarTextOf : List (Node × Node) → Scans Text
  | [] => malformed
  | (k, v) :: es =>
    match k with
    | .scalar .value _ => scalarText v
    | _ => scalarTextOf es

end

mutual

/-- The value of a node that is looked at on a level; what it holds belongs to the next one. -/
def draft (level : Nat) : Node → Draft Value
  | .scalar tag t =>
    if tag.isCollection then .fault (level + 1) .malformed .null
    else .ofScan level .null (scalarValue tag t)
  | .sequence tag xs =>
    match tag with
    | .seq => (drafts (level + 1) xs).map .list
    | .omap => (draftPairs (level + 1) xs).map .list
    | .pairs => (draftPairs (level + 1) xs).map .list
    | tag => .fault (if tag.isCollection then level + 1 else level) .malformed .null
  | .mapping tag es =>
    match tag with
    | .map => (draftMap (level + 1) es).map .map
    | .set => (draftMap (level + 1) es).map fun es => .set (es.map Prod.fst)
    | tag =>
      if tag.isCollection then .fault (level + 1) .malformed .null
      else .ofScan level .null ((scalarTextOf es).bind (scalarValue tag))
  | .enclosing isMapping => ⟨.cycle isMapping, []⟩

/-- The values of the items of a sequence. -/
def drafts (level : Nat) : List Node → Draft (List Value)
  | [] => ⟨[], []⟩
  | x :: xs => .both List.cons (draft level x) (drafts level xs)

/-- The pairs of a sequence of mappings with one entry each. -/
def draftPairs (level : Nat) : List Node → Draft (List Value)
  | [] => ⟨[], []⟩
  | x :: xs =>
    match x with
    | .mapping _ [(k, v)] =>
      .both List.cons (.both Value.pair (draft level k) (draft level v)) (draftPairs level xs)
    | _ => .fault level .malformed []

/-- The entries of a map. -/
def draftMap (level : Nat) (es : List (Node × Node)) : Draft Entries :=
  let c := contents level es
  ⟨overridden (c.merged.result ++ c.own.result), c.faults ++ c.merged.faults ++ c.own.faults⟩

/-- What the entries of a mapping give. -/
def contents (level : Nat) : List (Node × Node) → Contents
  | [] => ⟨⟨[], []⟩, ⟨[], []⟩, []⟩
  | (k, v) :: es =>
    let rest := contents level es
    match k with
    | .scalar .merge _ =>
      let c := mergedContents level v
      let given : Draft Entries := .both (· ++ ·) c.merged c.own
      { rest with merged := .both (· ++ ·) given rest.merged, faults := c.faults ++ rest.faults }
    | k =>
      let key : Draft Value := match k with
        | .scalar .value t => ⟨.text t, []⟩
        | k =>
          if k.isKey then draft level k
          else ⟨.null, [(level, .malformed)]⟩
      let entry : Draft Entries := .both (fun k v => [(k, v)]) key (draft level v)
      { rest with own := .both (· ++ ·) entry rest.own }

/-- What a merged node gives: the entries of a mapping, or of the mappings of a sequence, of which
earlier ones override later ones. -/
def mergedContents (level : Nat) : Node → Contents
  | .mapping _ es => contents level es
  | .sequence _ xs => mergedItems level xs
  | .enclosing _ => ⟨⟨[], []⟩, ⟨[], []⟩, []⟩
  | .scalar _ _ => ⟨⟨[], []⟩, ⟨[], []⟩, [(level, .malformed)]⟩

/-- What the merged items of a sequence give. -/
def mergedItems (level : Nat) : List Node → Contents
  | [] => ⟨⟨[], []⟩, ⟨[], []⟩, []⟩
  | x :: xs =>
    let rest := mergedItems level xs
    match x with
    | .mapping _ es =>
      let c := contents level es
      let given : Draft Entries := .both (· ++ ·) c.merged c.own
      { rest with merged := .both (· ++ ·) rest.merged given, faults := c.faults ++ rest.faults }
    | _ => { rest with faults := (level, .malformed) :: rest.faults }

end

/-- Reads a value from the text of a document. A text without a document gives null. -/
def read (t : Text) : Except Failure Value := do
  match ← document t with
  | none => return .null
  | some n => (draft 0 n).settle

end TreeSieve.Yaml
