import TreeSieve.Ignore
import TreeSieve.Text.Casing
import TreeSieve.Value.Coerce

/-!
# Snapshot — Options

What a snapshot of a directory leaves out, where it looks for tags, and how large it may grow.
-/

namespace TreeSieve.Snapshot

/-- The options of snapshots. -/
structure Options where
  /-- The ignore list. -/
  ignore : List Text
  showHidden : Bool := false
  readTags : Bool := true
  /-- The extensions of files that are searched for tags, in lower case with a point. -/
  tagExtensions : List Text := [".md".toList]
  maxItems : Nat := 200000
  /-- The size in bytes from which on a file is not searched for tags. -/
  maxBytes : Nat := 1000000
  /-- The ignore list made ready. -/
  rules : List IgnoreRule

namespace Options

/-- The type name of options in rejections. -/
def typeName : Text := "SnapshotConfig".toList

/-- The names of the options, in order. -/
def ignoreName : Text := "ignore".toList
/-- The name of the option for hidden entries. -/
def hiddenName : Text := "show_hidden".toList
/-- The name of the option for reading tags. -/
def readTagsName : Text := "read_tags".toList
/-- The name of the option for tagged files. -/
def extensionsName : Text := "tag_extensions".toList
/-- The name of the limit on items. -/
def maxItemsName : Text := "max_items".toList
/-- The name of the limit on bytes. -/
def maxBytesName : Text := "max_bytes_per_file".toList

/-- The ignore list when none is given. -/
def defaultIgnore : List Text :=
  ["**/.git/**", "**/.obsidian/**", "**/node_modules/**", "**/__pycache__/**"].map (·.toList)

/-- The members of an option that holds one text or several values, as texts without blanks around
them; all of them must be such that they can be written. -/
def listed (v : Value) : Except Rejection (List Text) :=
  match v with
  | .text t => .ok [Text.trim t]
  | v => v.members.bind fun vs =>
    if Value.areWritable vs then .ok (vs.map fun v => Text.trim v.toText)
    else .error (Rejection.whole typeName (.rule Value.hugeNumberText))

/-- An extension in lower case with its point. -/
def extension (t : Text) : Text :=
  match Text.lower t with
  | '.' :: cs => '.' :: cs
  | cs => '.' :: cs

/-- An ignore list: the lines that are neither empty nor comments. -/
def ignoreOfValue : Value → Except Rejection (List Text)
  | .null => .ok []
  | v => (listed v).map fun ts => ts.filter fun t => !t.isEmpty && t.head? ≠ some '#'

/-- The extensions of tagged files. -/
def extensionsOfValue (v : Value) : Except Rejection (List Text) :=
  (listed v).map fun ts => (ts.filter (!·.isEmpty)).map extension

/-- Options as a field of a record. A list that cannot be walked through turns down the whole
record, and a pattern that cannot be used is a fault of the options as a whole. -/
def check : Value → Except Rejection (Checked Options)
  | .map entries => do
    let ignore ← Checked.ofField ignoreName <| match Value.lookup entries ignoreName with
      | some v => ignoreOfValue v
      | none => .ok defaultIgnore
    let extensions ← Checked.ofField extensionsName <| match Value.lookup entries extensionsName with
      | some v => extensionsOfValue v
      | none => .ok [".md".toList]
    let and {α β : Type} (f : Checked (α → β)) (x : Checked α) : Checked β :=
      Checked.both (fun f x => f x) f x
    let options := and (and (and (and (and (and (.ok fun ignore hidden tags extensions items bytes =>
        Options.mk ignore hidden tags extensions items bytes [])
      ignore)
      (Value.field entries hiddenName Value.asBool false))
      (Value.field entries readTagsName Value.asBool true))
      extensions)
      (Value.field entries maxItemsName Value.asPositive 200000))
      (Value.field entries maxBytesName Value.asPositive 1000000)
    return options.bind fun o =>
      match IgnoreRule.readAll o.ignore with
      | .ok rules => .ok { o with rules }
      | .error r => Checked.fault (.rule r.message)
  | _ => .ok (Checked.fault (.notRecord typeName))

/-- Reads options from a value. -/
def ofValue (v : Value) : Except Rejection Options := do
  (← check v).mapError (.faults typeName)

/-- The options when none are given. -/
def default : Options where
  ignore := defaultIgnore
  rules := match IgnoreRule.readAll defaultIgnore with
    | .ok rules => rules
    | .error _ => []

/-- Options as a record. -/
def toValue (o : Options) : Value :=
  .map [(.text ignoreName, .list (o.ignore.map .text)), (.text hiddenName, .bool o.showHidden),
    (.text readTagsName, .bool o.readTags),
    (.text extensionsName, .list (o.tagExtensions.map .text)),
    (.text maxItemsName, .int o.maxItems), (.text maxBytesName, .int o.maxBytes)]

/-- Whether a path is ignored. -/
def ignores (o : Options) (path : Text) : Bool := IgnoreRule.ignores o.rules path

/-- Whether a file is searched for tags, by its name. -/
def isTagged (o : Options) (name : Text) : Bool :=
  o.readTags && o.tagExtensions.contains (Text.lower (Path.extension name))

end Options

end TreeSieve.Snapshot
