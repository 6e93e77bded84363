import Nv12Jpeg.Bytes

/-!
# File stores

Directories and files as paths find them. A *location* is the list of names that leads from the
working directory to a directory or a file; `..` occurs only at its front, for directories above
the working directory, and `/` only as its first name, for the root directory. Those directories
exist and hold nothing that is not in the store.

* `FileStore.resolve` follows a path to a location, or tells what is wrong on the way;
* `FileStore.openRead`, `FileStore.openDevice` and `FileStore.create` open what a path leads to;
* `FileStore.fill` writes the bytes of a file that was created;
* `FileStore.addDirectory` and `FileStore.addFile` build a store from paths, `FileStore.newFiles`
  tells what changed in one.
-/

namespace Nv12Jpeg

/-- The names that lead from the working directory to a directory or a file. -/
abbrev Location := List String

/-- What is found at a location. -/
inductive Node where
  | directory
  | file (contents : Bytes)
  deriving DecidableEq, Repr

/-- The number of bytes in a file; a directory has none. -/
def Node.size : Node → Nat
  | directory => 0
  | file contents => contents.size

/-- Directories and files with the number of bytes that can still be stored, if that is bounded. -/
structure FileStore where
  entries : List (Location × Node)
  room : Option Nat

namespace FileStore

/-- A working directory without anything in it, on a device without bounds. -/
def empty : FileStore := ⟨[], none⟩

/-- Directories that exist whatever is stored: the working directory, those above it, the root. -/
def isGiven (location : Location) : Bool :=
  location = ["/"] || location.all (· = "..")

/-- What is at a location. -/
def find? (store : FileStore) (location : Location) : Option Node :=
  if isGiven location then some .directory else store.entries.lookup location

/-- Puts a node at a location, in place of what is there. -/
def put (store : FileStore) (location : Location) (node : Node) : FileStore :=
  { store with
    entries := (location, node) :: store.entries.filter fun entry => entry.1 ≠ location }

/-- The directory above a location. -/
def above (location : Location) : Location :=
  if location = ["/"] then location
  else if location.all (· = "..") then ".." :: location
  else location.dropLast

/-- The longest name, in bytes. -/
def nameLimit : Nat := 255

/-- A path has fewer bytes than this. -/
def pathLimit : Nat := 4096

/-- The names in a path, in order; a name is empty where there is nothing between two slashes, in
front of the first one or behind the last one. -/
def names (path : String) : List String := (path.toList.splitOn '/').map String.ofList

/-- Goes from a directory by one name; the result need not exist. -/
def enter (directory : Location) (name : String) : Except IoError Location :=
  if name = "." then .ok directory
  else if name = ".." then .ok (above directory)
  else if nameLimit < name.utf8ByteSize then .error .nameTooLong
  else .ok (directory ++ [name])

/-- Goes from a directory by names, all but the last of which have to lead to directories. -/
def walk (store : FileStore) (directory : Location) : (names : List String) →
    Except IoError Location
  | [] => .ok directory
  | [name] => enter directory name
  | name :: rest => do
    let next ← enter directory name
    match store.find? next with
    | some .directory => walk store next rest
    | some (.file _) => .error .notADirectory
    | none => .error .notFound

/-- Follows a path from the working directory, or from the root if it starts with a slash. -/
def resolve (store : FileStore) (path : String) : Except IoError Location :=
  if '\x00' ∈ path.toList then .error .nullInPath
  else if pathLimit ≤ path.utf8ByteSize then .error .nameTooLong
  else if path = "" then .error .notFound
  else
    let start := if path.startsWith "/" then ["/"] else []
    store.walk start ((names path).filter (· ≠ ""))

/-- Opens an existing file or directory for reading. -/
def openRead (store : FileStore) (path : String) : Except IoError Location := do
  let location ← store.resolve path
  match store.find? location with
  | none => .error .notFound
  | some .directory => .ok location
  | some (.file _) => if path.endsWith "/" then .error .notADirectory else .ok location

/-- Opens an existing file for reading and writing; a directory cannot be written to. -/
def openDevice (store : FileStore) (path : String) : Except IoError Location := do
  let location ← store.openRead path
  match store.find? location with
  | some .directory => .error .isADirectory
  | _ => .ok location

/-- Creates a file, or empties the one that is there. -/
def create (store : FileStore) (path : String) : Except IoError (Location × FileStore) := do
  let location ← store.resolve path
  if path.endsWith "/" then .error .isADirectory
  else
    match store.find? location with
    | some .directory => .error .isADirectory
    | some (.file old) =>
      .ok (location, { store.put location (.file #[]) with room := store.room.map (· + old.size) })
    | none => .ok (location, store.put location (.file #[]))

/-- Fills an empty file with `contents`, and books the bytes. -/
def fill (store : FileStore) (location : Location) (contents : Bytes) : FileStore :=
  { store.put location (.file contents) with
    room := store.room.map (· - contents.size) }

/-- The bytes of the file at a location; a directory has none to read. -/
def contents (store : FileStore) (location : Location) : Except IoError Bytes :=
  match store.find? location with
  | some (.file bytes) => .ok bytes
  | some .directory => .error .isADirectory
  | none => .ok #[]

/-- The location that a path names, whatever is stored. -/
def locate (path : String) : Location :=
  (names path).foldl (fun location name =>
    if name = "" ∨ name = "." then location
    else if name = ".." then above location
    else location ++ [name]) (if path.startsWith "/" then ["/"] else [])

/-- Adds a directory with those it lies in. -/
def addDirectoryAt (store : FileStore) (location : Location) : FileStore :=
  (List.range location.length).foldl (fun store n =>
    let location := location.take (n + 1)
    match store.find? location with
    | some _ => store
    | none => store.put location .directory) store

/-- Adds the directory that a path names, with those it lies in. -/
def addDirectory (store : FileStore) (path : String) : FileStore :=
  store.addDirectoryAt (locate path)

/-- Adds a file under a path, with the directories it lies in. -/
def addFile (store : FileStore) (path : String) (contents : Bytes) : FileStore :=
  (store.addDirectoryAt (above (locate path))).put (locate path) (.file contents)

/-- The number of bytes in files. -/
def size (store : FileStore) : Nat :=
  store.entries.foldr (fun entry total => entry.2.size + total) 0

/-- The files of a store that another one does not have with the same bytes. -/
def newFiles (store before : FileStore) : List (Location × Bytes) :=
  store.entries.filterMap fun (location, node) =>
    match node with
    | .directory => none
    | .file contents =>
      if before.find? location = some node then none else some (location, contents)

/-- The files below the working directory, by path, in the order of their paths. -/
def files (store : FileStore) : List (String × Bytes) :=
  let below := store.entries.filterMap fun (location, node) =>
    match node with
    | .directory => none
    | .file contents =>
      if location.head? = some ".." ∨ location.head? = some "/" then none
      else some ("/".intercalate location, contents)
  below.mergeSort fun a b => decide (a.1 ≤ b.1)

/-- The path of a file name in a directory. -/
def join (directory name : String) : String :=
  if directory = "" then name
  else if directory.endsWith "/" then directory ++ name
  else directory ++ "/" ++ name

end FileStore

end Nv12Jpeg
