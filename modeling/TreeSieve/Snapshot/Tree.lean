import TreeSieve.Disk
import TreeSieve.Text.Casing

/-!
# Snapshot — Tree

What a snapshot sees of a folder: its files with their bytes, its folders with what they hold, and
links to folders, into which no snapshot goes.  A link to a file is seen as that file, and a link
that leads nowhere as a file of no size that cannot be read.
-/

namespace TreeSieve.Snapshot

/-- What stands under a name in a folder. -/
inductive Tree where
  /-- A file with its bytes, or with its size if it cannot be read. -/
  | file (content : Except Nat (List UInt8))
  /-- A link to a folder. -/
  | link
  /-- A folder that cannot be listed. -/
  | unlisted
  | folder (children : List (Text × Tree))

namespace Tree

/-- Whether a snapshot lists the tree as a folder. -/
def isFolder : Tree → Bool
  | file _ => false
  | link | unlisted | folder _ => true

/-- The entries of a folder by their names in lower case; entries that agree there keep their
order. -/
def sortByName (children : List (Text × Tree)) : List (Text × Tree) :=
  children.mergeSort fun a b => Text.le (Text.lower a.1) (Text.lower b.1)

mutual

/-- A tree with the entries of each folder in order. -/
def inOrder : Tree → Tree
  | file content => file content
  | link => link
  | unlisted => unlisted
  | folder children => folder (sortByName (inOrderAll children))

/-- The entries of a folder, each of them with its own entries in order. -/
def inOrderAll : List (Text × Tree) → List (Text × Tree)
  | [] => []
  | (name, t) :: rest => (name, t.inOrder) :: inOrderAll rest

end

/-- The tree at a place of a disk; `depth` bounds how far folders lie inside one another. -/
def ofDisk (d : Disk) : (depth : Nat) → (place : List Text) → Tree
  | 0, _ => unlisted
  | depth + 1, place =>
    match d.list? place with
    | none => unlisted
    | some entries => folder <| entries.map fun (name, e) =>
      (name, match e with
        | .file bytes => file (.ok bytes)
        | .unreadable size => file (.error size)
        | .folder | .unlistable _ => ofDisk d depth (place ++ [name])
        | .link _ =>
          match d.resolve place [name] with
          | .ok (.file bytes) => file (.ok bytes)
          | .ok (.unreadable size) => file (.error size)
          | .ok _ => link
          | .error _ => file (.error 0))

end Tree

end TreeSieve.Snapshot
