import TreeSieve.Value.Coerce

/-!
# Decision

What a search says about one item: how it matches, and whether it is shown.  The decisions of one
pass form a `DecisionMap`, in which a path keeps the place at which it first came and the decision
it got last.

`changes` compares two passes; `apply` puts the changes of one pass onto the map of an earlier one.
-/

namespace TreeSieve

/-- How an item matches a search. -/
inductive MatchKind where
  /-- A folder that matches. -/
  | folder
  /-- A file that matches. -/
  | file
  /-- A folder on the way to a match. -/
  | contains
  /-- None of these. -/
  | none
  deriving DecidableEq, Repr

/-- What a search says about one item. -/
structure Decision where
  kind : MatchKind
  shown : Bool
  deriving DecidableEq, Repr

namespace MatchKind

/-- The name of a match kind. -/
def name : MatchKind → Text
  | folder => "folder_match".toList
  | file => "file_match".toList
  | contains => "contains_match".toList
  | none => "none".toList

/-- The match kinds in the order of their listing. -/
def all : List MatchKind := [folder, file, contains, none]

/-- The match kind with a name. -/
def ofName? (t : Text) : Option MatchKind := all.find? (·.name = t)

/-- A match kind field. -/
def ofValue : Value → Checked MatchKind
  | .text t => match ofName? t with
    | some k => .ok k
    | Option.none => Checked.fault (.rule ("Invalid match type: ".toList ++ t))
  | _ => Checked.fault (.notAmong (all.map name))

end MatchKind

namespace Decision

/-- A folder that matches is shown. -/
def folderMatch : Decision := ⟨.folder, true⟩
/-- A file that matches is shown. -/
def fileMatch : Decision := ⟨.file, true⟩
/-- A folder on the way to a match is shown. -/
def containsMatch : Decision := ⟨.contains, true⟩
/-- An item in a matching folder is shown. -/
def revealed : Decision := ⟨.none, true⟩
/-- Everything else is hidden. -/
def hidden : Decision := ⟨.none, false⟩

/-- Whether the item itself matches. -/
def isDirect (d : Decision) : Bool := d.kind = .folder || d.kind = .file

/-- The type name of decisions in rejections. -/
def typeName : Text := "Decision".toList

/-- Reads a decision from the entries of a record. -/
def ofEntries (entries : List (Value × Value)) : Except Rejection Decision :=
  (Checked.both Decision.mk
    (Value.field entries "match_type".toList MatchKind.ofValue .none)
    (Value.field entries "should_show".toList Value.asBool false)).mapError (.faults typeName)

/-- Reads a decision from a value. -/
def ofValue : Value → Except Rejection Decision
  | .map entries => ofEntries entries
  | _ => .error (Rejection.whole typeName (.notRecord typeName))

end Decision

/-- The decisions of one pass, by path. -/
abbrev DecisionMap := List (Text × Decision)

namespace DecisionMap

/-- The decision for a path. -/
def get? : DecisionMap → Text → Option Decision
  | [], _ => none
  | (q, d) :: m, p => if q = p then some d else get? m p

/-- The map with the decision for a path set: in its place if the path is there, else at the end. -/
def put : DecisionMap → Text → Decision → DecisionMap
  | [], p, d => [(p, d)]
  | (q, e) :: m, p, d => if q = p then (q, d) :: m else (q, e) :: put m p d

/-- The map without a path. -/
def erase (m : DecisionMap) (p : Text) : DecisionMap := m.filter (·.1 ≠ p)

/-- The map of a list of decisions, later ones of a path in place of earlier ones. -/
def ofList (ds : List (Text × Decision)) : DecisionMap :=
  ds.foldl (fun m (p, d) => m.put p d) []

/-- How many shown items match themselves. -/
def countMatches (m : DecisionMap) : Nat :=
  m.countP fun (_, d) => d.shown && d.isDirect

/-- The paths of the shown items, in order. -/
def visible (m : DecisionMap) : List Text :=
  Text.sortedSet ((m.filter (·.2.shown)).map (·.1))

/-- A path whose decision changed, with the new decision, or without one if it is gone. -/
abbrev Change := Text × Option Decision

/-- The changes from one pass to a later one: first the new and changed decisions in the order of
the later pass, then the paths that are gone. -/
def changes (previous current : DecisionMap) : List Change :=
  ((current.filter fun (p, d) => previous.get? p ≠ some d).map fun (p, d) => (p, some d))
    ++ ((previous.filter fun (p, _) => (current.get? p).isNone).map fun (p, _) => (p, none))

/-- The map with changes put onto it, one after the other. -/
def apply (m : DecisionMap) (cs : List Change) : DecisionMap :=
  cs.foldl (fun m (p, d?) => match d? with
    | some d => m.put p d
    | none => m.erase p) m

/-- Changes in the order of their paths. -/
def sortChanges (cs : List Change) : List Change :=
  cs.mergeSort fun a b => Text.le a.1 b.1

/-! ### Lookups after one operation -/

theorem get?_put (m : DecisionMap) (p q : Text) (d : Decision) :
    (m.put p d).get? q = if p = q then some d else m.get? q := by
  induction m with
  | nil => rfl
  | cons e m ih =>
    obtain ⟨r, e⟩ := e
    by_cases hr : r = p
    · subst hr; by_cases hq : r = q <;> simp [put, get?, hq]
    · by_cases hq : r = q
      · subst hq; simp [put, get?, hr, Ne.symm hr]
      · simp [put, get?, hr, hq, ih]

theorem get?_erase (m : DecisionMap) (p q : Text) :
    (m.erase p).get? q = if p = q then none else m.get? q := by
  induction m with
  | nil => simp [erase, get?]
  | cons e m ih =>
    obtain ⟨r, e⟩ := e
    simp only [erase] at ih ⊢
    by_cases hr : r = p
    · subst hr; by_cases hq : r = q <;> simp_all [get?]
    · by_cases hq : r = q
      · subst hq; simp [get?, hr, Ne.symm hr]
      · simpa [get?, hr, hq] using ih

end DecisionMap

end TreeSieve
