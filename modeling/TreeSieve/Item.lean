import TreeSieve.Path
import TreeSieve.Text.Casing
import TreeSieve.Value.Coerce

/-!
# Item

A file or folder of a tree.  An item is read from a record (`Item.ofValue`) or made from a path
(`Item.file`, `Item.folder`): its path is normalised, its name and the path of its parent follow
from the path when they are not given, its tags are normalised and ordered, and a folder has none.
Nothing follows from a path that is given by its bytes (`Item.derive`), and then the tags of a folder
stay too.  An item is a record again by `Item.toValue`.
-/

namespace TreeSieve

/-- The two kinds of items. -/
inductive ItemKind where
  | file
  | folder
  deriving DecidableEq, Repr

/-- A file or folder; `parent?` is missing for the root, and `tags` is an ordered set. -/
structure Item where
  path : Text
  name : Text
  kind : ItemKind
  parent? : Option Text
  tags : List Text
  deriving DecidableEq, Repr

namespace ItemKind

/-- The name of a kind. -/
def name : ItemKind → Text
  | file => "file".toList
  | folder => "folder".toList

/-- The kind with a name, in any case. -/
def ofName? (t : Text) : Option ItemKind :=
  let w := Text.lower t
  if w = file.name then some file else if w = folder.name then some folder else none

end ItemKind

namespace Item

/-- Whether the item is a folder. -/
def isFolder (i : Item) : Bool := i.kind = .folder

/-- Whether the item is the root of the tree. -/
def isRoot (i : Item) : Bool := i.path = Path.root

/-- The name that searches look at: that of a file loses its extension, unless nothing would be
left. -/
def matchName (i : Item) : Text :=
  if i.isFolder then i.name
  else match Text.cutLast? '.' i.name with
    | some (stem, _) => if stem.isEmpty then i.name else stem
    | none => i.name

/-- The path of the folder around the item, which is the root when none is given. -/
def parent (i : Item) : Text :=
  match i.parent? with
  | some p => if p.isEmpty then Path.root else p
  | none => Path.root

/-! ### Reading items -/

/-- The type name of items in rejections. -/
def typeName : Text := "TreeItem".toList

/-- A kind field: a name, or nothing else. -/
def kindOfValue : Value → Checked ItemKind
  | .text t => match ItemKind.ofName? t with
    | some k => .ok k
    | none => Checked.fault (.rule ("Invalid item kind: ".toList ++ t))
  | _ => Checked.fault (.notAmong [ItemKind.file.name, ItemKind.folder.name])

/-- The path field: a text that normalisation does not make empty. -/
def pathOfValue (v : Value) : Checked Text :=
  v.asText.bind fun t =>
    if t.isEmpty then Checked.fault .emptyText
    else
      let p := Path.normalize t
      if p.isEmpty then Checked.fault (.rule "Item path cannot be empty".toList) else .ok p

/-- The parent field: a text or null. -/
def parentOfValue : Value → Checked (Option Text)
  | .null => .ok none
  | v => (Value.asText v).map some

/-- Tags that are normalised, without empty ones, in order and each once. -/
def tagSet (ts : List Text) : List Text :=
  Text.sortedSet ((ts.map Tag.normalize).filter (! ·.isEmpty))

/-- The texts among which tags are sought, each of which must be a text. -/
def tagTexts : List Value → Except Rejection (List Text)
  | [] => .ok []
  | .text t :: vs => (tagTexts vs).map (t :: ·)
  | v :: _ => .error (.notTrimmable v.kind)

/-- The tags field: null, one text, or the members of a value. -/
def tagsOfValue : Value → Except Rejection (List Text)
  | .null => .ok []
  | .text t => .ok (tagSet [t])
  | v => do
    let ts ← tagTexts (← v.members)
    return tagSet ts

/-- What the path of a record says about the fields that are not given. -/
structure Derived where
  /-- The name, when the field is void. -/
  name? : Option Text
  /-- The parent, when the field is missing. -/
  parent? : Option (Option Text)

/-- The fields that follow from the path of a record, if that is given as a text. -/
def derive (entries : List (Value × Value)) : Option Derived :=
  match Value.lookup entries "path".toList with
  | some (.text t) =>
    let p := Path.normalize t
    if p.isEmpty then none
    else
      let voidName := match Value.lookup entries "name".toList with
        | some v => v.isVoid
        | none => true
      let noParent := (Value.lookup entries "parent_path".toList).isNone
      some {
        name? := if voidName && p ≠ Path.root then some (Path.lastName p) else none
        parent? := if noParent then some (if p = Path.root then none else some (Path.parent p))
          else none }
  | _ => none

/-- Whether a kind field names the folder, read without complaint. -/
def namesFolder : Option Value → Bool
  | some (.text t) => Text.lower t = ItemKind.folder.name
  | _ => false

/-- Reads an item from the entries of a record. When `kind?` is given it takes the place of the
kind field. -/
def ofEntries (entries : List (Value × Value)) (kind? : Option ItemKind) : Except Rejection Item :=
  let given (name : String) : Option Value := Value.lookup entries name.toList
  let derived := derive entries
  let path : Checked Text := match given "path" with
    | some v => Checked.named "path".toList (pathOfValue v)
    | none => Checked.named "path".toList (Checked.fault .missing)
  let name : Checked Text := match derived.bind Derived.name? with
    | some n => .ok n
    | none => Value.field entries "name".toList Value.asText []
  let kind : Checked ItemKind := match kind? with
    | some k => .ok k
    | none => Value.field entries "kind".toList kindOfValue .file
  let parent : Checked (Option Text) := match derived.bind Derived.parent? with
    | some p => .ok p
    | none => Value.field entries "parent_path".toList parentOfValue none
  let isFolder : Bool := match kind? with
    | some k => k = .folder
    | none => namesFolder (given "kind")
  -- the tags of a folder are not even looked at once the path is known
  let tags : Except Rejection (List Text) :=
    if derived.isSome && isFolder then .ok []
    else match given "tags" with
      | some v => tagsOfValue v
      | none => .ok []
  tags.bind fun tags =>
    let item := Checked.both (fun (f : List Text → Item) t => f t)
      (Checked.both (fun f p => f p)
        (Checked.both (fun f k => f k)
          (Checked.both (fun p n => fun k pp ts => Item.mk p n k pp ts) path name) kind) parent)
      (.ok tags)
    item.mapError (Rejection.faults typeName)

/-- Reads an item from a value. -/
def ofValue : Value → Except Rejection Item
  | .map entries => ofEntries entries none
  | _ => .error (Rejection.whole typeName (.notRecord typeName))

/-- Reads a file from the entries of a record, whatever kind they name; void tags are no tags. -/
def fileOfEntries (entries : List (Value × Value)) : Except Rejection Item :=
  let entries := entries.map fun (k, v) =>
    match k with
    | .text t => (k, if t = "tags".toList && v.isVoid then .null else v)
    | _ => (k, v)
  ofEntries entries (some .file)

/-- Reads a folder from the entries of a record, whatever kind they name. -/
def folderOfEntries (entries : List (Value × Value)) : Except Rejection Item :=
  ofEntries entries (some .folder)

/-! ### Items as records -/

/-- A parent as the value of its field. -/
def parentValue : Option Text → Value
  | some p => .text p
  | none => .null

/-- The fields of an item, its tags as a list. -/
def toEntries (i : Item) : List (Value × Value) :=
  [(.text "path".toList, .text i.path), (.text "name".toList, .text i.name),
    (.text "kind".toList, .text i.kind.name), (.text "parent_path".toList, parentValue i.parent?),
    (.text "tags".toList, .list (i.tags.map .text))]

/-- An item as a record. -/
def toValue (i : Item) : Value := .map i.toEntries

end Item

end TreeSieve
