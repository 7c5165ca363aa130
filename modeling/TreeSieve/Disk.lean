import TreeSieve.Path
import TreeSieve.Text.Quoted
import TreeSieve.Text.Utf8

/-!
# Disk

A file system as a value: folders, files and symbolic links by their paths, which are lists of names
from the root down.  Every operation first resolves its path, following links, and names the problem
when it cannot do its work.

Some entries keep what they hold to themselves: a file that cannot be read, and a folder that cannot be
listed, which paths lead through or not.
-/

namespace TreeSieve

/-- What a path of a disk holds. -/
inductive DiskEntry where
  | file (bytes : List UInt8)
  /-- A file that cannot be read, of some size. -/
  | unreadable (size : Nat)
  | folder
  /-- A folder that cannot be listed, and whether paths lead through it. -/
  | unlistable (passes : Bool)
  | link (target : Text)
  deriving DecidableEq, Repr

/-- Whether an entry is a folder. -/
def DiskEntry.isFolder : DiskEntry → Bool
  | folder | unlistable _ => true
  | file _ | unreadable _ | link _ => false

/-- A file system, in the order in which its entries were made. The root is always there. -/
abbrev Disk := List (List Text × DiskEntry)

/-- Why an operation on a disk fails. -/
inductive DiskProblem where
  | notFound
  | denied
  | taken
  | notFolder
  | isFolder
  | nameTooLong
  | tooManyLinks
  deriving DecidableEq, Repr

namespace DiskProblem

/-- The number of a problem. -/
def number : DiskProblem → Nat
  | notFound => 2
  | denied => 13
  | taken => 17
  | notFolder => 20
  | isFolder => 21
  | nameTooLong => 36
  | tooManyLinks => 40

/-- The name of a problem. -/
def name : DiskProblem → Text
  | notFound => "No such file or directory".toList
  | denied => "Permission denied".toList
  | taken => "File exists".toList
  | notFolder => "Not a directory".toList
  | isFolder => "Is a directory".toList
  | nameTooLong => "File name too long".toList
  | tooManyLinks => "Too many levels of symbolic links".toList

/-- The wording of a problem with a path. -/
def message (p : DiskProblem) (path : Text) : Text :=
  "[Errno ".toList ++ Text.ofNat p.number ++ "] ".toList ++ p.name ++ ": ".toList
    ++ Text.quoted path

/-- Whether a problem on the way to a path leaves open what is there; the others say that nothing is. -/
def leavesOpen : DiskProblem → Bool
  | denied | nameTooLong => true
  | notFound | taken | notFolder | isFolder | tooManyLinks => false

end DiskProblem

namespace Disk

/-- The entry at exactly a path. -/
def entry? (d : Disk) (p : List Text) : Option DiskEntry :=
  if p.isEmpty then some .folder else d.lookup p

/-- Whether a folder stands at a path. -/
def isFolderAt (d : Disk) (p : List Text) : Bool := (d.entry? p).any DiskEntry.isFolder

/-- The names of a path, and whether it starts at the root. -/
def steps (p : Text) : Bool × List Text := (p.head? = some '/', Path.components p)

/-- How many links a path may lead through. -/
def linkLimit : Nat := 40

/-- How many bytes a name may have. -/
def nameLimit : Nat := 255

/-- How many bytes a path may have. -/
def pathLimit : Nat := 4095

/-- Where the names `todo` lead from the folder `place`. A link is followed, the last name only if
`follow` says so; `mayMiss` allows the last name not to be there. -/
def walk (d : Disk) (follow mayMiss : Bool) : (links : Nat) → (place todo : List Text) →
    Except DiskProblem (List Text)
  | _, place, [] => .ok place
  | links, place, name :: todo =>
    if name = "..".toList then walk d follow mayMiss links place.dropLast todo
    else
      let here := place ++ [name]
      match d.entry? here with
      | none =>
        if nameLimit < (Text.Utf8.encode name).length then .error .nameTooLong
        else if todo.isEmpty && mayMiss then .ok here else .error .notFound
      | some .folder => walk d follow mayMiss links here todo
      | some (.unlistable passes) =>
        if todo.isEmpty || passes then walk d follow mayMiss links here todo else .error .denied
      | some (.file _) | some (.unreadable _) =>
        if todo.isEmpty then .ok here else .error .notFolder
      | some (.link target) =>
        if todo.isEmpty && !follow then .ok here
        else match links with
          | 0 => .error .tooManyLinks
          | links + 1 =>
            let (rooted, names) := steps target
            walk d follow mayMiss links (if rooted then [] else place) (names ++ todo)
termination_by links _ todo => (links, todo.length)

/-- Where a path leads, seen from the folder `here`; `follow` and `mayMiss` are for its last name. -/
def lead (d : Disk) (follow mayMiss : Bool) (here : List Text) (p : Text) :
    Except DiskProblem (List Text) :=
  if p.contains '\x00' then .error .notFound
  else if pathLimit < (Text.Utf8.encode p).length then .error .nameTooLong
  else
    let (rooted, names) := steps p
    d.walk follow mayMiss linkLimit (if rooted then [] else here) names

/-- Where a path leads, links being followed. -/
def locate (d : Disk) (here : List Text) (p : Text) : Except DiskProblem (List Text) :=
  d.lead true false here p

/-- What stands at a place. That a folder cannot be listed does not show. -/
def look (d : Disk) (q : List Text) : Except DiskProblem DiskEntry :=
  match d.entry? q with
  | some (.unlistable _) => .ok .folder
  | some e => .ok e
  | none => .error .notFound

/-- What the names `todo` lead to from the folder `place`; never a link. -/
def resolve (d : Disk) (place todo : List Text) : Except DiskProblem DiskEntry := do
  d.look (← d.walk true false linkLimit place todo)

/-- What a path leads to, seen from the folder `here`; never a link. -/
def find (d : Disk) (here : List Text) (p : Text) : Except DiskProblem DiskEntry := do
  d.look (← d.locate here p)

/-- The entries of a folder with their names. -/
def children (d : Disk) (place : List Text) : List (Text × DiskEntry) :=
  d.filterMap fun (p, e) =>
    match p.getLast? with
    | some name => if p.dropLast = place then some (name, e) else none
    | none => none

/-- The entries of a folder, if it can be listed. -/
def list? (d : Disk) (place : List Text) : Option (List (Text × DiskEntry)) :=
  match d.entry? place with
  | some .folder => some (d.children place)
  | _ => none

/-- Whether a path leads to something, if that can be told. -/
def has (d : Disk) (here : List Text) (p : Text) : Except DiskProblem Bool :=
  match d.find here p with
  | .ok _ => .ok true
  | .error e => if e.leavesOpen then .error e else .ok false

/-- Whether a path leads to a file. -/
def hasFile (d : Disk) (here : List Text) (p : Text) : Bool :=
  match d.find here p with
  | .ok (.file _) | .ok (.unreadable _) => true
  | _ => false

/-- Whether a path leads to a folder. -/
def hasFolder (d : Disk) (here : List Text) (p : Text) : Bool :=
  match d.find here p with
  | .ok .folder => true
  | _ => false

/-- The bytes of a file. -/
def contents (d : Disk) (here : List Text) (p : Text) : Except DiskProblem (List UInt8) := do
  match ← d.find here p with
  | .file bytes => return bytes
  | .unreadable _ => throw .denied
  | .folder | .unlistable _ | .link _ => throw .isFolder

/-- The disk with an entry put at exactly a path. -/
def put : Disk → List Text → DiskEntry → Disk
  | [], p, e => [(p, e)]
  | (q, f) :: d, p, e => if q = p then (q, e) :: d else (q, f) :: put d p e

/-- The disk without a path and everything below it. -/
def remove (d : Disk) (p : List Text) : Disk := d.filter fun (q, _) => !p.isPrefixOf q

/-- Makes an entry in a folder that is there. -/
def make (d : Disk) (here : List Text) (p : Text) (e : DiskEntry) : Except DiskProblem Disk := do
  let q ← d.lead false true here p
  if (d.entry? q).isSome then throw .taken else return d.put q e

/-- Makes a folder in a folder that is there. -/
def makeFolder (d : Disk) (here : List Text) (p : Text) : Except DiskProblem Disk :=
  d.make here p .folder

/-- Makes a link in a folder that is there. -/
def makeLink (d : Disk) (here : List Text) (p target : Text) : Except DiskProblem Disk :=
  d.make here p (.link target)

/-- Makes a folder and the folders around it, as far as they are missing. The fuel bounds the number
of folders around. A problem comes with the path at which it arose. -/
def makeFolders (here : List Text) : (fuel : Nat) → Disk → Text → Except (DiskProblem × Text) Disk
  | 0, _, p => .error (.notFound, p)
  | fuel + 1, d, p =>
    match d.makeFolder here p with
    | .ok d => .ok d
    | .error .notFound => do
      let around := Path.around p
      if around = p then .error (.notFound, p)
      else
        let d ← makeFolders here fuel d around
        match d.makeFolder here p with
        | .ok d => return d
        | .error e => if d.hasFolder here p then return d else .error (e, p)
    | .error e => if d.hasFolder here p then .ok d else .error (e, p)

/-- Writes a file, which is made if it is missing. -/
def putFile (d : Disk) (here : List Text) (p : Text) (bytes : List UInt8) :
    Except DiskProblem Disk := do
  let q ← d.lead true true here p
  match d.entry? q with
  | some .folder | some (.unlistable _) => throw .isFolder
  | some (.unreadable _) => throw .denied
  | _ => return d.put q (.file bytes)

end Disk

end TreeSieve
