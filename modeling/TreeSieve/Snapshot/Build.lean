import TreeSieve.Item
import TreeSieve.Note
import TreeSieve.Snapshot.Options
import TreeSieve.Snapshot.Tree
import TreeSieve.Text.Utf8

/-!
# Snapshot — Build

Snapshots of folders.  A folder is visited in steps (`steps`): its subfolders are listed first, then
its files, and then each subfolder is visited in its turn.  An entry that is hidden or ignored is left
out, with everything below it, and nothing is seen of what lies in a folder that cannot be listed.
`collect` takes the steps in order, makes an item of each entry, goes on with the counts, and ends at the
first entry for which there is no room.
-/

namespace TreeSieve.Snapshot

/-- What snapshots have counted. -/
@[ext]
structure Stats where
  folders : Nat := 0
  files : Nat := 0
  ignored : Nat := 0
  tagged : Nat := 0
  errors : Nat := 0
  deriving DecidableEq, Repr

/-- Counts taken together. -/
def Stats.add (a b : Stats) : Stats where
  folders := a.folders + b.folders
  files := a.files + b.files
  ignored := a.ignored + b.ignored
  tagged := a.tagged + b.tagged
  errors := a.errors + b.errors

/-- The counts with their names. -/
def Stats.named (s : Stats) : List (Text × Nat) :=
  [("directories_traversed".toList, s.folders), ("files_scanned".toList, s.files),
    ("items_ignored".toList, s.ignored), ("files_tagged".toList, s.tagged),
    ("errors".toList, s.errors)]

/-- Whether an entry belongs into a snapshot: its folder is named by `base`, the path with a slash at
its end, which is empty for the root. -/
def Options.keeps (o : Options) (base name : Text) : Bool :=
  (o.showHidden || name.head? ≠ some '.') && !o.ignores (base ++ name)

/-! ### Steps -/

/-- A step of a visit. -/
inductive Step where
  /-- A folder is entered. -/
  | enter
  /-- An entry is left out. -/
  | skip
  /-- A folder cannot be listed. -/
  | fail
  | folder (path name : Text)
  | file (path name : Text) (content : Except Nat (List UInt8))

/-- The steps for the subfolders of a folder: first those left out, then those listed. -/
def folderSteps (o : Options) (base : Text) (children : List (Text × Tree)) : List Step :=
  let names := (children.filter (·.2.isFolder)).map Prod.fst
  (names.filter (!o.keeps base ·)).map (fun _ => .skip)
    ++ (names.filter (o.keeps base ·)).map fun name => .folder (base ++ name) name

/-- The steps for the files of a folder. -/
def fileSteps (o : Options) (base : Text) (children : List (Text × Tree)) : List Step :=
  children.filterMap fun
    | (name, .file content) =>
      some (if o.keeps base name then .file (base ++ name) name content else .skip)
    | _ => none

mutual

/-- The steps of a visit to a folder. -/
def steps (o : Options) (base : Text) : Tree → List Step
  | .folder children =>
    .enter :: folderSteps o base children ++ fileSteps o base children
      ++ stepsBelow o base children
  | .unlisted => [.fail]
  | .file _ | .link => []

/-- The steps of the visits to the subfolders that are listed, links left aside. -/
def stepsBelow (o : Options) (base : Text) : List (Text × Tree) → List Step
  | [] => []
  | (name, t) :: rest =>
    (if o.keeps base name then steps o (base ++ name ++ Path.root) t else [])
      ++ stepsBelow o base rest

end

/-! ### Items -/

/-- Why there is no snapshot. -/
inductive Failure where
  /-- An entry has a name that no item can have. -/
  | item (r : Rejection)
  /-- The front matter of a file holds a faulty value. -/
  | note (f : Yaml.ValueFault)
  /-- The path to the folder leads through links in a circle. -/
  | circle (path : Text)
  /-- It cannot be told where the path to the folder leads. -/
  | unseen (path : Text) (p : DiskProblem)

/-- The wording of a failure. -/
def Failure.message : Failure → Text
  | item r => r.message
  | note f => f.message
  | circle path => "Symlink loop from ".toList ++ Text.quoted path
  | unseen path p => p.message path

/-- The tags of a file, and what counts for it. -/
def readTags (o : Options) (name : Text) (content : Except Nat (List UInt8)) :
    Except Failure (List Text × Stats) :=
  if !o.isTagged name then .ok ([], { files := 1 })
  else match content with
    | .error size => .ok ([], { files := 1, errors := if o.maxBytes < size then 0 else 1 })
    | .ok bytes =>
      if o.maxBytes < bytes.length then .ok ([], { files := 1 })
      else do
        let tags ← (Note.tags (Text.plainBreaks (Text.Utf8.decodeLeniently bytes))).mapError .note
        return (tags, { files := 1, tagged := if tags.isEmpty then 0 else 1 })

/-- The item of an entry. -/
def itemOf (kind : ItemKind) (path name : Text) (tags : List Text) : Except Failure Item :=
  (Item.ofEntries [(.text "path".toList, .text path), (.text "name".toList, .text name),
    (.text "tags".toList, .set (tags.map .text))] (some kind)).mapError .item

/-- The items of steps, as long as there is room for items, and what has been counted in the end. -/
def collect (o : Options) :
    (room : Nat) → (counted : Stats) → List Step → Except Failure (List Item × Stats)
  | _, counted, [] => .ok ([], counted)
  | room, counted, .enter :: rest => collect o room (counted.add { folders := 1 }) rest
  | room, counted, .skip :: rest => collect o room (counted.add { ignored := 1 }) rest
  | room, counted, .fail :: rest => collect o room (counted.add { errors := 1 }) rest
  | 0, counted, .folder .. :: _ => .ok ([], counted)
  | room + 1, counted, .folder path name :: rest => do
    let i ← itemOf .folder path name []
    let (items, counted) ← collect o room counted rest
    return (i :: items, counted)
  | 0, counted, .file .. :: _ => .ok ([], counted)
  | room + 1, counted, .file path name content :: rest => do
    let (tags, s) ← readTags o name content
    let i ← itemOf .file path name tags
    let (items, counted) ← collect o room (counted.add s) rest
    return (i :: items, counted)

/-- The item of the folder that a snapshot starts from. -/
def rootItem : Item := ⟨Path.root, [], .folder, none, []⟩

/-- The snapshot of a tree, the root first. -/
def ofTree (o : Options) (counted : Stats) (t : Tree) : Except Failure (List Item × Stats) := do
  let (items, counted) ← collect o (o.maxItems - 1) counted (steps o [] t.inOrder)
  return (rootItem :: items, counted)

/-- The snapshot of a folder on a disk, seen from the folder `here`, when some things have been counted
before. What is no folder has no items. -/
def ofDiskAfter (o : Options) (d : Disk) (here : List Text) (counted : Stats) (path : Text) :
    Except Failure (List Item × Stats) :=
  let whole := Path.root ++ Text.join Path.root here ++ '/' :: path
  match d.locate here path with
  | .error .tooManyLinks => .error (.circle whole)
  | .error p => if p.leavesOpen then .error (.unseen whole p) else .ok ([], counted)
  | .ok place =>
    if d.isFolderAt place then ofTree o counted (Tree.ofDisk d (d.length + 1) place)
    else .ok ([], counted)

/-- The snapshot of a folder on a disk, and what counts for it alone. -/
def ofDisk (o : Options) (d : Disk) (here : List Text) (path : Text) :
    Except Failure (List Item × Stats) :=
  ofDiskAfter o d here {} path

/-- The snapshots of folders one after the other, each with what has been counted up to it; no path
starts the counts anew. -/
def ofDiskAll (o : Options) (d : Disk) (here : List Text) :
    (counted : Stats) → List (Option Text) → Except Failure (List (Option (List Item) × Stats))
  | _, [] => .ok []
  | _, none :: rest => do return (none, {}) :: (← ofDiskAll o d here {} rest)
  | counted, some path :: rest => do
    let (items, counted) ← ofDiskAfter o d here counted path
    return (some items, counted) :: (← ofDiskAll o d here counted rest)

end TreeSieve.Snapshot
