import Narrative.SortedMap

/-!
# Disks

A disk holds files and folders under paths. A path that begins with a slash is followed from the
root, any other from the folder that the disk is used from. It is followed one name at a time, and
every name but the last must lead to a folder. What cannot be followed, read or written is refused
with a cause.
-/

namespace Narrative

/-- What stands under a path. -/
inductive DiskItem where
  /-- A file with its text. -/
  | file (text : String)
  /-- A folder. -/
  | folder
  deriving DecidableEq, Repr

/-- Why a disk refuses an operation. -/
inductive DiskError where
  /-- Nothing stands under the path. -/
  | missing
  /-- A file stands where a folder is needed. -/
  | notFolder
  /-- A folder stands where a file is needed. -/
  | isFolder
  /-- A file stands where a folder is to be made. -/
  | occupied
  /-- A name has more than 255 bytes, or a path more than 4095. -/
  | tooLong
  /-- The path has a null character. -/
  | nullInPath
  deriving DecidableEq, Repr

/-- The wording of an error. -/
def DiskError.message : DiskError → String
  | missing => "No such file or directory (os error 2)"
  | notFolder => "Not a directory (os error 20)"
  | isFolder => "Is a directory (os error 21)"
  | occupied => "File exists (os error 17)"
  | tooLong => "File name too long (os error 36)"
  | nullInPath => "file name contained an unexpected NUL byte"

/-- The files and folders below a root, each under the names on the way to it. -/
structure Disk where
  /-- All of them but the root. -/
  items : SortedMap (List String) DiskItem
  /-- The folder that the disk is used from. -/
  here : List String
  deriving DecidableEq

namespace Disk

/-- A disk without files, used from its root. -/
def empty : Disk := ⟨∅, []⟩

instance : Inhabited Disk := ⟨empty⟩

/-- What stands under a path that was followed; the root is a folder. -/
def item? (disk : Disk) (place : List String) : Option DiskItem :=
  if place = [] then some .folder else disk.items.get? place

/-- The disk with an item under a path. -/
def put (disk : Disk) (place : List String) (item : DiskItem) : Disk :=
  { disk with items := disk.items.insert place item }

/-- The number of bytes that a name may have. -/
def longestName : Nat := 255

/-- The number of bytes that a path may have. -/
def longestPath : Nat := 4095

/-- The place that a name leads to from a folder. An empty name and a dot stay, and two dots lead
to the folder above. -/
def step (here : List String) (name : String) : Except DiskError (List String) :=
  if name = "" ∨ name = "." then .ok here
  else if name = ".." then .ok here.dropLast
  else if longestName < name.utf8ByteSize then .error .tooLong
  else .ok (here ++ [name])

/-- Follow names from a place. -/
def follow (disk : Disk) (here : List String) : List String → Except DiskError (List String)
  | [] => .ok here
  | name :: rest =>
    match disk.item? here with
    | none => .error .missing
    | some (.file _) => .error .notFolder
    | some .folder => do
      let next ← step here name
      follow disk next rest

/-- The pieces between the slashes of a path, as characters. -/
def pieces : List Char → List (List Char)
  | [] => [[]]
  | c :: rest =>
    if c = '/' then [] :: pieces rest
    else
      match pieces rest with
      | [] => [[c]]
      | first :: others => (c :: first) :: others

/-- The names in a path, in the order in which they are followed. -/
def namesOf (path : String) : List String := (pieces path.toList).map String.ofList

/-- The place that a path is followed from. -/
def origin (disk : Disk) (path : String) : List String :=
  if path.toList.head? = some '/' then [] else disk.here

/-- Refuse what is no path, whatever stands on the disk. -/
def checkPath (path : String) : Except DiskError Unit :=
  if '\x00' ∈ path.toList then .error .nullInPath
  else if longestPath < path.utf8ByteSize then .error .tooLong
  else .ok ()

/-- The place that a path leads to, whether anything stands there or not. -/
def locate (disk : Disk) (path : String) : Except DiskError (List String) := do
  let () ← checkPath path
  if path = "" then .error .missing else disk.follow (disk.origin path) (namesOf path)

/-- The text of a file. -/
def read (disk : Disk) (path : String) : Except DiskError String := do
  let place ← disk.locate path
  match disk.item? place with
  | none => .error .missing
  | some .folder => .error .isFolder
  | some (.file text) => .ok text

/-- The disk with a file that has a text, in place of one under the same path. -/
def write (disk : Disk) (path text : String) : Except DiskError Disk := do
  let place ← disk.locate path
  match disk.item? place with
  | some .folder => .error .isFolder
  | _ => .ok (disk.put place (.file text))

/-- Whether anything stands under a path. -/
def contains (disk : Disk) (path : String) : Except DiskError Bool :=
  match disk.locate path with
  | .error .missing => .ok false
  | .error error => .error error
  | .ok place => .ok (disk.item? place).isSome

/-- Make the folders on the way from a place that are missing. -/
def makeFoldersFrom (disk : Disk) (here : List String) : List String → Except DiskError Disk
  | [] => .ok disk
  | name :: rest => do
    let next ← step here name
    match disk.item? next with
    | some .folder => makeFoldersFrom disk next rest
    | none => makeFoldersFrom (disk.put next .folder) next rest
    | some (.file _) => .error (if rest.isEmpty then .occupied else .notFolder)

/-- The disk with a folder under a path, made with those above it where they are missing. -/
def makeFolders (disk : Disk) (path : String) : Except DiskError Disk := do
  let () ← checkPath path
  disk.makeFoldersFrom (disk.origin path) (namesOf path)

/-- The disk used from the folder under a path, which is made where it is missing. -/
def enter (disk : Disk) (path : String) : Except DiskError Disk := do
  let disk ← disk.makeFolders path
  let place ← disk.locate path
  .ok { disk with here := place }

/-- The disk with one more file, and the folders that it is in. A file that cannot be there is
left out. -/
def addFile (disk : Disk) (path text : String) : Disk :=
  match disk.makeFoldersFrom (disk.origin path) (namesOf path).dropLast with
  | .error _ => disk
  | .ok disk => (disk.write path text).toOption.getD disk

/-- The disk with some more files. -/
def addFiles (disk : Disk) (files : List (String × String)) : Disk :=
  files.foldl (fun disk file => disk.addFile file.1 file.2) disk

/-- The name under which an item stands in a folder, if it does. -/
def nameIn? (folder place : List String) : Option String :=
  if place.dropLast = folder then place.getLast? else none

/-- The names in a folder. -/
def names (disk : Disk) (path : String) : Except DiskError (List String) := do
  let place ← disk.locate path
  match disk.item? place with
  | none => .error .missing
  | some (.file _) => .error .notFolder
  | some .folder => .ok (disk.items.keys.filterMap (nameIn? place))

/-- The path of a name in a folder. A name that starts at the root keeps its own path. -/
def join (folder name : String) : String :=
  if name.toList.head? = some '/' then name
  else if folder = "" ∨ folder.toList.getLast? = some '/' then folder ++ name
  else folder ++ "/" ++ name

end Disk

end Narrative
