import TreeSieve.Config.Document
import TreeSieve.Disk
import TreeSieve.Text.Utf8
import TreeSieve.Yaml.Meaning

/-!
# Config — File

Configuration files on a disk: reading one that is named or the first one found (`load`), checking one
without keeping it (`check`), and writing one (`save`).

A fault is expected when it says what is wrong with a file or its contents.  Only expected faults make
the search for a file go on to the next candidate, and only these are listed by a check.

Reading a document descends into what it holds, and whether there is room for that (`hasRoom`) is not for
the document to tell.  Unless it is said otherwise there is room for every text.
-/

namespace TreeSieve.Config

/-- A disk with the folder to start from and the home folder. -/
structure Site where
  disk : Disk
  here : List Text
  home : List Text

/-- Why a configuration cannot be loaded. -/
inductive FileFault where
  | missing (path : Text)
  /-- It cannot be told whether there is a file. -/
  | unseen (path : Text) (p : DiskProblem)
  | unreadable (path : Text) (p : DiskProblem)
  | undecodable (f : Text.Utf8.Fault)
  /-- A file whose text is no document. -/
  | malformed (path text : Text)
  /-- A text for the reading of which there is no room. -/
  | tooDeep (text : Text)
  | value (f : Yaml.ValueFault)
  | notMap (kind : Value.Kind)
  | sections (f : SectionFault)
  /-- There are warnings, and they are not to be passed over. -/
  | warned (warnings : List Text)

/-- Whether a fault says what is wrong with the sections. -/
def SectionFault.expected : SectionFault → Bool
  | unknown _ | notMap _ | rejected _ => true
  | notIterable _ | notKey _ | notRecord _ | unordered .. | notName _ => false

namespace FileFault

/-- Whether a fault says what is wrong with the file. -/
def expected : FileFault → Bool
  | unseen .. | undecodable _ | tooDeep _ | value _ => false
  | sections f => f.expected
  | missing _ | unreadable .. | malformed .. | notMap _ | warned _ => true

/-- The wording of a fault by itself. What the reader of documents has to say of a text that is none, or
that it has no room for, is not known here, and given as `complaint`. -/
def cause (complaint : Text → Text) : FileFault → Text
  | missing path => "Configuration file not found: ".toList ++ path
  | unseen path p => p.message path
  | unreadable path p =>
    "Cannot read configuration file ".toList ++ path ++ ": ".toList ++ p.message path
  | undecodable f => f.message
  | malformed path t =>
    "Invalid YAML syntax in ".toList ++ path ++ ": ".toList ++ complaint t
  | tooDeep t => complaint t
  | value f => f.message
  | notMap k => "Configuration file must contain a YAML object, got ".toList ++ k.shortName
  | sections f =>
    if f.expected then "Configuration validation failed: ".toList ++ f.message else f.message
  | warned ws =>
    "Configuration warnings in strict mode: ".toList ++ Text.join "; ".toList ws

/-- The wording of a fault as the reason why nothing was loaded. -/
def message (complaint : Text → Text) (f : FileFault) : Text :=
  if f.expected then f.cause complaint
  else "Failed to load configuration: ".toList ++ f.cause complaint

end FileFault

/-! ### Reading -/

/-- The document in a file; an empty one is a record without entries. -/
def readDocument (s : Site) (path : Text) (hasRoom : Text → Bool := fun _ => true) :
    Except FileFault Value := do
  let bytes ← (s.disk.contents s.here path).mapError (.unreadable path)
  let t := Text.plainBreaks (← (Text.Utf8.decode bytes).mapError .undecodable)
  if t.all Text.isBlank then return .map []
  else if !hasRoom t then throw (.tooDeep t)
  else match Yaml.read t with
    | .error .malformed => throw (.malformed path t)
    | .error (.value f) => throw (.value f)
    | .ok .null => return .map []
    | .ok v => if v.kind = .map then return v else throw (.notMap v.kind)

/-- The names of the files that are looked for. -/
def fileNames : List Text :=
  [".treefilter.yaml", ".treefilter.yml", "treefilter.yaml", "treefilter.yml"].map (·.toList)

/-- The folders in which they are looked for. -/
def folders (s : Site) : List (List Text) :=
  [s.here, s.home, s.home ++ [".config".toList, "treefilter".toList]]

/-- The files that are looked for, in order. -/
def candidates (s : Site) : List Text :=
  (folders s).flatMap fun f => fileNames.map fun name => '/' :: Text.join Path.root (f ++ [name])

/-- Whether a path leads to something. -/
def isThere (s : Site) (path : Text) : Except FileFault Bool :=
  (s.disk.has s.here path).mapError (.unseen path)

/-- The first of some files that holds a document, with the document. A file with an expected fault is
passed over. -/
def discover (s : Site) (paths : List Text) (hasRoom : Text → Bool := fun _ => true) :
    Except FileFault (Option (Text × Value)) :=
  match paths with
  | [] => .ok none
  | path :: rest => do
    if (← isThere s path) && s.disk.hasFile s.here path then
      match readDocument s path hasRoom with
      | .ok v => return some (path, v)
      | .error f => if f.expected then discover s rest hasRoom else throw f
    else discover s rest hasRoom

/-- The document in a file that is named. -/
def readNamed (s : Site) (path : Text) (hasRoom : Text → Bool := fun _ => true) :
    Except FileFault Value := do
  if ← isThere s path then readDocument s path hasRoom else throw (.missing path)

/-- A configuration that was loaded, and from where; from nowhere when it is the default one. -/
structure Loaded where
  config : Config
  warnings : List Text
  path? : Option Text

/-- Whether no file was found. -/
def Loaded.isDefault (l : Loaded) : Bool := l.path?.isNone

/-- Loads the configuration from a file, or from the first one found when none is named. Warnings are
faults when `strict` is set. -/
def load (s : Site) (strict : Bool) (path? : Option Text) (hasRoom : Text → Bool := fun _ => true) :
    Except FileFault Loaded := do
  let found? ← match path? with
    | some (c :: cs) =>
      let path := Path.tidy (c :: cs)
      pure (some (path, ← readNamed s path hasRoom))
    | _ => discover s (candidates s) hasRoom
  let document := match found? with
    | some (_, v) => v
    | none => .map []
  let config ← (checkSections document).mapError .sections
  let warnings := config.warnings ++
    (if found?.isNone then ["No configuration file found, using default settings".toList] else [])
  if strict && !warnings.isEmpty then throw (.warned warnings)
  else return ⟨config, warnings, found?.map Prod.fst⟩

/-- What is wrong with a configuration file: nothing or one expected fault. Another fault is a fault of
the check itself. -/
def check (s : Site) (path : Text) (hasRoom : Text → Bool := fun _ => true) :
    Except FileFault (List FileFault) :=
  match readNamed s (Path.tidy path) hasRoom >>= fun v => (checkSections v).mapError .sections with
  | .ok _ => .ok []
  | .error f => if f.expected then .ok [f] else .error f

/-! ### Writing -/

/-- What a file is written for. -/
inductive Purpose where
  | configuration
  | template
  deriving DecidableEq, Repr

/-- Why a file cannot be written: the problem, and the path at which it arose. -/
structure WriteFault where
  purpose : Purpose
  path : Text
  problem : DiskProblem
  place : Text

/-- The wording of a fault. -/
def WriteFault.message (f : WriteFault) : Text :=
  (match f.purpose with
    | .configuration => "Cannot write configuration file ".toList
    | .template => "Cannot create template file ".toList)
  ++ f.path ++ ": ".toList ++ f.problem.message f.place

/-- The disk with a configuration written to a file; the folders around it are made. -/
def write (s : Site) (purpose : Purpose) (path : Text) (c : Config) : Except WriteFault Disk := do
  let path := Path.tidy path
  let around := Path.around path
  let d ← (Disk.makeFolders s.here ((Path.components around).length + 1) s.disk around).mapError
    fun (p, place) => ⟨purpose, path, p, place⟩
  (d.putFile s.here path (Text.Utf8.encode c.toDocument)).mapError fun p =>
    ⟨purpose, path, p, path⟩

/-- The disk with a configuration saved to a file. -/
def save (s : Site) (path : Text) (c : Config) : Except WriteFault Disk :=
  write s .configuration path c

/-- The disk with the default configuration written to a file. -/
def createTemplate (s : Site) (path : Text) : Except WriteFault Disk :=
  write s .template path .default

end TreeSieve.Config
