import FilterQuery.Logging.Line

/-!
# Files

The files that logging writes to, seen from a working folder.  A place is a list of names that
lead there from the working folder; files have numbers of their own, so that a file that is open
stays the same when it is given another name.  Some files are devices that take nothing in.

* `Place`, `Disk`, `DiskFault`.
* `Disk.makeFolders` — creates the folders of a path.
* `Disk.openFile` — the number of the file at a path, which is created if there is none.
* `Disk.read`, `Disk.append`, `Disk.rename`, `Disk.remove?`.
-/

namespace FilterQuery.Logging

/-! ## Places -/

/-- The names that lead to a place from the working folder.  `..` at the front leads out of it;
the name `/` at the front starts at the root. -/
abbrev Place := List String

namespace Place

/-- Goes on by one name; `..` goes back. -/
def step (place : Place) (name : String) : Place :=
  if name = ".." then
    match place.getLast? with
    | none => [".."]
    | some ".." => place ++ [".."]
    | some "/" => place
    | some _ => place.dropLast
  else place ++ [name]

/-- The names in a path; empty ones and single dots do not count. -/
def names (path : String) : List String :=
  ((path.toList.splitOn '/').map String.ofList).filter fun name => name != "" && name != "."

/-- The place from which a path starts. -/
def start (path : String) : Place :=
  if path.toList.head? == some '/' then ["/"] else []

/-- The place of a path. -/
def ofPath (path : String) : Place :=
  (names path).foldl step (start path)

/-- Whether a place is in the working folder. -/
def isInside (place : Place) : Bool :=
  !(place.head? == some ".." || place.head? == some "/")

/-- The path of a place. -/
def path : Place → String
  | "/" :: rest => "/" ++ "/".intercalate rest
  | place => "/".intercalate place

end Place

/-! ## The state of the disk -/

/-- What is at a place. -/
inductive Node where
  | folder
  /-- A file, by its number. -/
  | file (number : Nat)
  deriving DecidableEq, Repr

/-- Folders and files. -/
structure Disk where
  /-- The path of the working folder. -/
  home : String
  nodes : List (Place × Node)
  /-- The lines of all files by their numbers. -/
  files : List (List Line)
  /-- The numbers of the files that are full devices: they can be opened, and take no data. -/
  devices : List Nat
  deriving Repr

/-- Why something cannot be done to a path. -/
inductive DiskFault where
  /-- The path has a null character. -/
  | nullCharacter
  /-- A file is where a folder should be. -/
  | fileExists (path : String)
  /-- The path leads through a file. -/
  | notFolder (path : String)
  /-- A folder is where a file should be. -/
  | isFolder (path : String)
  | nameTooLong (path : String)
  | missing (path : String)
  /-- A device does not take the data that it was given. -/
  | noSpace
  /-- More folders are missing on a path than can be gone through. -/
  | tooManyFolders
  deriving DecidableEq, Repr

namespace Disk

/-- An empty working folder, and a full device elsewhere. -/
def empty (home : String) : Disk :=
  ⟨home, [(["/", "dev"], .folder), (["/", "dev", "full"], .file 0)], [[]], [0]⟩

/-- What is at a place. -/
def node? (disk : Disk) (place : Place) : Option Node :=
  if place.all fun name => name == ".." || name == "/" then some .folder
  else disk.nodes.lookup place

/-- The full path of a place. -/
def fullPath (disk : Disk) (place : Place) : String :=
  match place with
  | [] => disk.home
  | "/" :: _ => place.path
  | _ => disk.home ++ "/" ++ place.path

/-- Whether a name has more bytes than a name may have. -/
def isTooLong (name : String) : Bool :=
  255 < name.utf8ByteSize

/-! ## Folders -/

/-- How many missing folders on a path can be gone through: each of them takes a call within the
one for the folder below, calls may be nested about a thousand deep, and some are under way
before. -/
def folderLimit : Nat := 970

/-- How many of the folders on the way through these names are missing. -/
def missingFrom (disk : Disk) (place : Place) : List String → Nat
  | [] => 0
  | name :: rest =>
    match disk.node? (place.step name) with
    | some .folder => missingFrom disk (place.step name) rest
    | some (.file _) => rest.length
    | none => rest.length + 1

/-- Creates the folders on the way through these names, as far as they are missing.  `place` and
`path` are how far the way has come. -/
def makeFoldersFrom (disk : Disk) (place : Place) (path : String) :
    List String → Disk × Option DiskFault
  | [] => (disk, none)
  | name :: rest =>
    let next := place.step name
    let nextPath := if path.isEmpty || path = "/" then path ++ name else path ++ "/" ++ name
    if name.toList.contains '\x00' then (disk, some .nullCharacter)
    else if disk.node? place ≠ some .folder then (disk, some (.notFolder nextPath))
    else if isTooLong name then (disk, some (.nameTooLong nextPath))
    else
      match disk.node? next with
      | some .folder => makeFoldersFrom disk next nextPath rest
      | some (.file _) =>
        if rest.isEmpty then (disk, some (.fileExists nextPath))
        else makeFoldersFrom disk next nextPath rest
      | none =>
        makeFoldersFrom { disk with nodes := disk.nodes ++ [(next, .folder)] } next nextPath rest

/-- Creates the folder that a path to a file leads through.  Those that are missing are found
first, from the last one up; none is created if they are too many. -/
def makeFolders (disk : Disk) (path : String) : Disk × Option DiskFault :=
  let names := (Place.names path).dropLast
  if folderLimit < disk.missingFrom (Place.start path) names then (disk, some .tooManyFolders)
  else makeFoldersFrom disk (Place.start path) (Place.path (Place.start path)) names

/-! ## Files -/

/-- The number of the file at a place, which is created if nothing is there. -/
def openPlace (disk : Disk) (place : Place) : Except DiskFault (Nat × Disk) :=
  match disk.node? place with
  | some (.file number) => .ok (number, disk)
  | some .folder => .error (.isFolder (disk.fullPath place))
  | none =>
    if disk.node? place.dropLast ≠ some .folder then .error (.missing (disk.fullPath place))
    else if (place.getLast?.map isTooLong).getD false then
      .error (.nameTooLong (disk.fullPath place))
    else
      .ok (disk.files.length,
        { disk with
          nodes := disk.nodes ++ [(place, .file disk.files.length)]
          files := disk.files ++ [[]] })

/-- The number of the file at a path, which is created if nothing is there. -/
def openFile (disk : Disk) (path : String) : Except DiskFault (Nat × Disk) :=
  if path.toList.contains '\x00' then .error .nullCharacter
  else disk.openPlace (Place.ofPath path)

/-- The lines of a file. -/
def lines (disk : Disk) (number : Nat) : List Line :=
  disk.files[number]?.getD []

/-- The number of bytes of a file. -/
def size (disk : Disk) (number : Nat) : Nat :=
  ((disk.lines number).map Line.size).foldr (· + ·) 0

/-- The lines of the file at a path. -/
def read (disk : Disk) (path : String) : Except DiskFault (List Line) :=
  match disk.node? (Place.ofPath path) with
  | some (.file number) => .ok (disk.lines number)
  | some .folder => .error (.isFolder path)
  | none => .error (.missing path)

/-- Puts a line at the end of a file. -/
def append (disk : Disk) (number : Nat) (line : Line) : Disk :=
  { disk with files := disk.files.modify number (· ++ [line]) }

/-- Takes the name of a file away; folders stay. -/
def remove? (disk : Disk) (place : Place) : Option Disk :=
  match disk.node? place with
  | some (.file _) => some { disk with nodes := disk.nodes.filter (·.1 != place) }
  | _ => none

/-- Moves what is at a place, and everything below it. -/
def rename (disk : Disk) (source target : Place) : Disk :=
  { disk with
    nodes := disk.nodes.map fun (place, node) =>
      if source.isPrefixOf place then (target ++ place.drop source.length, node)
      else (place, node) }

/-- The paths of all files in the working folder, in order. -/
def filePaths (disk : Disk) : List String :=
  let paths := disk.nodes.filterMap fun (place, node) =>
    match node with
    | .file _ => if place.isInside then some place.path else none
    | .folder => none
  paths.mergeSort fun a b => decide (a ≤ b)

end Disk

end FilterQuery.Logging
