-- A tree of files: all that a run sees of the disk. Places are lists of
-- names, from the working directory or from the root; looking a path up
-- walks through the directories on its way.
import SixStage.IoFault
import SixStage.Path

namespace SixStage

inductive FileNode where
  | directory
  | file (bytes : ByteArray)
  deriving Inhabited

/-- Files are equal if their bytes are. -/
instance : DecidableEq FileNode
  | .directory, .directory => isTrue rfl
  | .directory, .file _ => isFalse nofun
  | .file _, .directory => isFalse nofun
  | .file ⟨a⟩, .file ⟨b⟩ =>
    if h : a = b then isTrue (h ▸ rfl)
    else isFalse fun e => h (ByteArray.mk.inj (FileNode.file.inj e))

structure FileTree where
  /-- What stands at each place; the latest entry for a place counts. -/
  entries : List (List String × FileNode)
  deriving DecidableEq, Inhabited

namespace FileTree

/-- The root directory has a place of its own, since no name holds a slash. -/
def rootPlace : List String := ["/"]

def empty : FileTree := ⟨[]⟩

/-- The directories that are always there: the working directory, those above it,
and the root. -/
def isBase (place : List String) : Bool := place = rootPlace || place.all fun n => n = ".."

def at? (t : FileTree) (place : List String) : Option FileNode :=
  if isBase place then some .directory else t.entries.lookup place

def set (t : FileTree) (place : List String) (n : FileNode) : FileTree :=
  ⟨(place, n) :: t.entries.filter fun e => e.1 ≠ place⟩

/-! ## Looking up -/

/-- The place above; the root is above itself. -/
def above (place : List String) : List String :=
  if place = rootPlace then rootPlace
  else if isBase place then ".." :: place
  else place.dropLast

/-- The place that names lead to. All but the last must be directories. -/
def walk (t : FileTree) (place : List String) : List String → Except IoFault (List String)
  | [] => .ok place
  | name :: rest =>
    match t.at? place with
    | none => .error .notFound
    | some (.file _) => .error .notDirectory
    | some .directory =>
      if name = "." then t.walk place rest
      else if name = ".." then t.walk (above place) rest
      else if 255 < name.utf8ByteSize then .error .nameTooLong
      else t.walk (place ++ [name]) rest

def start (path : String) : List String := if Path.isAbsolute path then rootPlace else []

/-- The place of a path. Nothing need stand there. -/
def locate (t : FileTree) (path : String) : Except IoFault (List String) :=
  if path.contains '\x00' then .error .nulInName
  else if path.isEmpty then .error .notFound
  else if 4096 ≤ path.utf8ByteSize then .error .nameTooLong
  else t.walk (start path) (Path.names path)

def read (t : FileTree) (path : String) : Except IoFault ByteArray :=
  match t.locate path with
  | .error e => .error e
  | .ok place =>
    match t.at? place with
    | none => .error .notFound
    | some .directory => .error .isDirectory
    | some (.file bytes) => if path.endsWith "/" then .error .notDirectory else .ok bytes

def isDirectory (t : FileTree) (path : String) : Bool :=
  match t.locate path with
  | .error _ => false
  | .ok place => t.at? place = some .directory

/-! ## Making -/

/-- The place for a new file at a path: its directory is there, and it is none
itself. -/
def filePlace (t : FileTree) (path : String) : Except IoFault (List String) :=
  match t.locate path with
  | .error e => .error e
  | .ok place =>
    if t.at? place = some .directory ∨ path.endsWith "/" then .error .isDirectory
    else if t.at? (above place) = some .directory then .ok place
    else .error .notFound

/-- Writes a file, in place of one that stands there. -/
def write (t : FileTree) (path : String) (bytes : ByteArray) : FileTree × Option IoFault :=
  match t.filePlace path with
  | .error e => (t, some e)
  | .ok place => (t.set place (.file bytes), none)

/-- Makes the directory at the end of some names. -/
def makeAt (t : FileTree) (origin : List String) (names : List String) :
    FileTree × Option IoFault :=
  match t.walk origin names with
  | .error e => (t, some e)
  | .ok place =>
    match t.at? place with
    | some _ => (t, some .exists)
    | none =>
      match t.at? (above place) with
      | some .directory => (t.set place .directory, none)
      | some (.file _) => (t, some .notDirectory)
      | none => (t, some .notFound)

/-- A directory that is there already will do. -/
def settle (t : FileTree) (origin names : List String) : Option IoFault → Option IoFault
  | none => none
  | some e =>
    match t.walk origin names with
    | .ok place => if t.at? place = some .directory then none else some e
    | .error _ => some e

/-- Makes the directory at the end of some names, where what is missing above it is
made by `parents`. -/
def makeWith (t : FileTree) (origin names : List String)
    (parents : FileTree → FileTree × Option IoFault) : FileTree × Option IoFault :=
  match t.makeAt origin names with
  | (t, some .notFound) =>
    match parents t with
    | (t, some e) => (t, some e)
    | (t, none) =>
      let (t, fault) := t.makeAt origin names
      (t, t.settle origin names fault)
  | (t, fault) => (t, t.settle origin names fault)

/-- Makes the directory at the end of some names, given from the last to the
first, and those above it that are missing. -/
def makeAll (origin : List String) : List String → FileTree → FileTree × Option IoFault
  | [], t => (t, none)
  | name :: parents, t => t.makeWith origin (name :: parents).reverse (makeAll origin parents)

/-- Makes a directory and all those above it. The empty path needs none. -/
def makeDirectories (t : FileTree) (path : String) : FileTree × Option IoFault :=
  if path.isEmpty then (t, none)
  else if path.contains '\x00' then (t, some .nulInName)
  else if 4096 ≤ path.utf8ByteSize then (t, some .nameTooLong)
  else
    let origin := start path
    t.makeWith origin (Path.names path)
      (makeAll origin (Path.directNames path).dropLast.reverse)

/-! ## Contents -/

/-- The path of a place. -/
def pathOf : List String → String
  | [] => "."
  | "/" :: names => "/" ++ "/".intercalate names
  | names => "/".intercalate names

/-- The files below the working directory, with their paths. -/
def files (t : FileTree) : List (String × ByteArray) :=
  t.entries.filterMap fun (place, n) =>
    match place, n with
    | "/" :: _, _ => none
    | ".." :: _, _ => none
    | _, .directory => none
    | _, .file bytes => some (pathOf place, bytes)

/-- What is new or different in a later tree, in the order in which it was made. -/
def changes (t later : FileTree) : List (String × FileNode) :=
  (later.entries.reverse.filter fun e => t.at? e.1 ≠ some e.2).map fun e => (pathOf e.1, e.2)

end FileTree

end SixStage
