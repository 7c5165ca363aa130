import TreeSieve.Settings
import TreeSieve.Snapshot.Options
import TreeSieve.Value.Key

/-!
# Config

The configuration: settings of searches and options of snapshots.  `Config.ofValue` reads it from a
record; `Config.checkSections` also refuses sections that are not known, and takes an empty section
for a missing one.
-/

namespace TreeSieve

/-- A configuration. -/
structure Config where
  search : Settings
  snapshot : Snapshot.Options

namespace Config

/-- The type name of configurations in rejections. -/
def typeName : Text := "TreeFilterConfig".toList

/-- The name of the section for searches. -/
def searchName : Text := "search".toList

/-- The name of the section for snapshots. -/
def snapshotName : Text := "snapshot".toList

/-- The configuration when nothing is given. -/
def default : Config := ⟨{}, .default⟩

/-- Reads a configuration from a value. -/
def ofValue : Value → Except Rejection Config
  | .map entries => do
    let search : Checked Settings := Value.field entries searchName Settings.check {}
    let snapshot : Checked Snapshot.Options ← match Value.lookup entries snapshotName with
      | some v => (Snapshot.Options.check v).map (Checked.named snapshotName)
      | none => .ok (.ok .default)
    (Checked.both Config.mk search snapshot).mapError (.faults typeName)
  | _ => .error (Rejection.whole typeName (.notRecord typeName))

/-- A configuration as a record. -/
def toValue (c : Config) : Value :=
  .map [(.text searchName, c.search.toValue), (.text snapshotName, c.snapshot.toValue)]

/-! ### Sections -/

/-- Why a value has no sections of a configuration. -/
inductive SectionFault where
  | notIterable (kind : Value.Kind)
  | notKey (kind : Value.Kind)
  /-- A value that can be walked through and is no record. -/
  | notRecord (kind : Value.Kind)
  | unknown (names : List Text)
  /-- Unknown sections some of which have no order between them. -/
  | unordered (left right : Value.Kind)
  /-- An unknown section whose name is no text. -/
  | notName (kind : Value.Kind)
  | notMap (name : Text)
  | rejected (r : Rejection)

/-- The wording of a fault. -/
def SectionFault.message : SectionFault → Text
  | notIterable k => '\'' :: k.name ++ "' object is not iterable".toList
  | notKey k => "unhashable type: '".toList ++ k.name ++ ['\'']
  | notRecord k => '\'' :: k.name ++ "' object has no attribute 'items'".toList
  | unknown names => "Unknown configuration sections: ".toList ++ Text.join ", ".toList names
  | unordered a b =>
    "'<' not supported between instances of '".toList ++ a.name ++ "' and '".toList ++ b.name
      ++ ['\'']
  | notName k => "sequence item 0: expected str instance, ".toList ++ k.shortName ++ " found".toList
  | notMap s => "Configuration section '".toList ++ s ++ "' must be a mapping".toList
  | rejected r => "Configuration validation failed: ".toList ++ r.message

/-- Whether a value names a section. -/
def namesSection : Value → Bool
  | .text t => t = searchName || t = snapshotName
  | _ => false

/-- The first neighbours of a list that have no order between them, the later one first. -/
def unorderedPair? : List Value → Option (Value.Kind × Value.Kind)
  | a :: b :: rest =>
    if a.comparable b then unorderedPair? (b :: rest) else some (b.kind, a.kind)
  | _ => none

/-- The kind of the least of some numbers, or of the first value when they are no numbers. -/
def leastKind (first : Value) (rest : List Value) : Value.Kind :=
  (rest.foldl (fun least v =>
    match least.fraction?, v.fraction? with
    | some (m, d), some (n, e) => if n * d < m * e then v else least
    | _, _ => least) first).kind

/-- The fault of sections that are not known. They are named in order, so there must be one; numbers
are looked at before other names. -/
def unknownFault : List Value → Option SectionFault
  | [] => none
  | v :: vs =>
    let names := (v :: vs).filterMap fun
      | .text t => some t
      | _ => none
    if names.length = (v :: vs).length then some (.unknown (Text.sortedSet names))
    else
      let numbers := (v :: vs).filter (·.fraction?.isSome)
      let others := (v :: vs).filter (·.fraction?.isNone)
      match unorderedPair? (numbers ++ others) with
      | some (a, b) => some (.unordered a b)
      | none => some (.notName (leastKind v vs))

/-- Checks the sections of a record and reads the configuration. -/
def checkSections (v : Value) : Except SectionFault Config :=
  match v.members with
  | .error _ => .error (.notIterable v.kind)
  | .ok members =>
    match members.find? (!·.isKey) with
    | some m => .error (.notKey m.kind)
    | none =>
      match unknownFault ((Value.distinct members).filter (!namesSection ·)) with
      | some f => .error f
      | none =>
        match v with
        | .map entries =>
          let given := entries.filter fun (_, v) => v.kind ≠ .null
          match given.find? fun (_, v) => v.kind ≠ .map with
          | some (k, _) => .error (.notMap k.toText)
          | none => (ofValue (.map given)).mapError .rejected
        | v => .error (.notRecord v.kind)

/-! ### Reports -/

/-- What is worth a warning in a configuration. -/
def warnings (c : Config) : List Text :=
  (if c.snapshot.readTags && c.snapshot.tagExtensions.isEmpty then
    ["Tag reading is enabled but no tag extensions are configured".toList] else [])
  ++ (if 1000000 < c.snapshot.maxItems then
    ["Very high max_items limit may cause memory issues".toList] else [])
  ++ (if 50000000 < c.snapshot.maxBytes then
    ["Very high max_bytes_per_file limit may slow down tag extraction".toList] else [])

/-- A configuration in one line. -/
def summary (c : Config) : Text :=
  Text.join " | ".toList
    ["Case sensitive: ".toList ++ (Value.bool c.search.caseSensitive).toText,
     "Ignore patterns: ".toList ++ Text.ofNat c.snapshot.ignore.length,
     "Tags: ".toList ++ (if c.snapshot.readTags then Text.join ", ".toList c.snapshot.tagExtensions
       else "off".toList),
     "Max items: ".toList ++ Text.ofNat c.snapshot.maxItems]

end Config

end TreeSieve
