import FormMigrate.File.Replacement
import FormMigrate.Run.Store

/-! A disk in memory: files and directories by the names that lead to them from the root. -/

namespace FormMigrate

/-- The names that lead from the root to a place. -/
abbrev Place := List Bytes

/-- What stands at a place, with its permission bits. -/
inductive Node where
  | file (mode : Nat) (content : Bytes)
  | directory (mode : Nat)
  deriving DecidableEq, Repr

/-- The kind of a node. -/
def Node.kind : Node → FileKind
  | .file _ _ => .file
  | .directory _ => .directory

/-- The permission bits of a node. -/
def Node.mode : Node → Nat
  | .file mode _ | .directory mode => mode

/-- The nodes of a disk, each place at most once, and the directory that relative paths start
from. The root itself is always a directory.
-/
structure Disk where
  nodes : List (Place × Node) := []
  workingDirectory : Place := []

namespace Disk

/-- What stands at a place. -/
def node? (disk : Disk) (place : Place) : Option Node :=
  if place.isEmpty then some (.directory 0o755) else disk.nodes.lookup place

/-- Sets what stands at a place. -/
def setNode : List (Place × Node) → Place → Node → List (Place × Node)
  | [], place, node => [(place, node)]
  | (p, n) :: rest, place, node =>
      if p == place then (p, node) :: rest else (p, n) :: setNode rest place node

/-- The disk with a node at a place. -/
def put (disk : Disk) (place : Place) (node : Node) : Disk :=
  { disk with nodes := setNode disk.nodes place node }

/-- The disk without a place and everything below it. -/
def remove (disk : Disk) (place : Place) : Disk :=
  { disk with nodes := disk.nodes.filter fun (p, _) => !place.isPrefixOf p }

/-- The length from which on a path is refused. -/
def pathLimit : Nat := 4096

/-- Follows one name from a place, which has to be a directory. -/
def follow (disk : Disk) (place : Place) (name : Bytes) : Except Errno Place :=
  match disk.node? place with
  | none => .error .noEntry
  | some (.file _ _) => .error .notDirectory
  | some (.directory _) =>
      if 255 < name.length then .error .nameTooLong
      else if name == Path.here then .ok place
      else if name == Path.parent then .ok place.dropLast
      else .ok (place ++ [name])

/-- The names to follow along a path; a trailing slash asks for a directory. -/
def steps (path : Bytes) : List Bytes :=
  Path.names path ++ if path.getLast? == some 0x2f then [Path.here] else []

/-- The place that a path leads to. Everything before it exists; the place itself may not. -/
def place (disk : Disk) (path : Bytes) : Except Errno Place :=
  if path.isEmpty then .error .noEntry
  else if path.contains 0 then .error .invalidArgument
  else if pathLimit ≤ path.length then .error .nameTooLong
  else
    (steps path).foldlM disk.follow (if Path.isAbsolute path then [] else disk.workingDirectory)

/-- What a path leads to. -/
def find (disk : Disk) (path : Bytes) : Except Errno (Place × Node) := do
  let place ← disk.place path
  match disk.node? place with
  | some node => .ok (place, node)
  | none => .error .noEntry

/-- What stands under a path, for the given operation. -/
def stat (disk : Disk) (operation path : Bytes) : Except FileFault Node :=
  match disk.find path with
  | .ok (_, node) => .ok node
  | .error errno => .error (.onPath operation path errno)

/-- Whether something stands under a path. -/
def isPresent (disk : Disk) (path : Bytes) : Bool := (disk.find path).isOk

/-- The content of a file. -/
def read (disk : Disk) (path : Bytes) : Except FileFault Bytes :=
  match disk.stat "open" path with
  | .ok (.file _ content) => .ok content
  | .ok (.directory _) => .error (.onPath "read" path .isDirectory)
  | .error fault => .error fault

/-- The permission bits that a replaced file keeps. -/
def modeOf (disk : Disk) (path : Bytes) : Nat :=
  match disk.find path with
  | .ok (_, node) => node.mode
  | .error _ => 0o644

/-- What a walk through a path comes to, in no particular order: what stands there, and everything
below a directory.
-/
def walk (disk : Disk) (path : Bytes) : List (Except FileFault WalkEntry) :=
  match disk.find path with
  | .error errno => [.error (.onPath "lstat" path errno)]
  | .ok (_, .file _ _) => [.ok ⟨path, Path.base path, .file⟩]
  | .ok (place, .directory _) =>
      .ok ⟨path, Path.base path, .directory⟩
        :: disk.nodes.filterMap fun (p, node) =>
          let below := p.drop place.length
          if place.isPrefixOf p && !below.isEmpty then
            some (.ok ⟨Path.descend path below, Path.nameOf path below, node.kind⟩)
          else none

/-- A path without trailing slashes and then without its last name. -/
def parentPath (path : Bytes) : Bytes :=
  Bytes.trimBack (· != 0x2f) (Bytes.trimBack (· == 0x2f) path)

/-- Makes a directory and those above it. The fuel bounds the number of names in the path. -/
def makeDirectoryFrom : (fuel : Nat) → (disk : Disk) → (path : Bytes) → Except FileFault Unit × Disk
  | 0, disk, path => (.error (.onPath "mkdir" path .noEntry), disk)
  | fuel + 1, disk, path =>
      match disk.find path with
      | .ok (_, .directory _) => (.ok (), disk)
      | .ok (_, .file _ _) => (.error (.onPath "mkdir" path .notDirectory), disk)
      | .error _ =>
          let above := Bytes.trimBack (· == 0x2f) (parentPath path)
          let (made, disk) :=
            if above.isEmpty then (.ok (), disk) else makeDirectoryFrom fuel disk above
          match made with
          | .error fault => (.error fault, disk)
          | .ok () =>
              match disk.place (Bytes.trimBack (· == 0x2f) path) with
              | .error errno => (.error (.onPath "mkdir" path errno), disk)
              | .ok place =>
                  match disk.node? place with
                  | some (.directory _) => (.ok (), disk)
                  | some (.file _ _) => (.error (.onPath "mkdir" path .alreadyExists), disk)
                  | none => (.ok (), disk.put place (.directory 0o755))

/-- Makes a directory and those above it. -/
def makeDirectory (disk : Disk) (path : Bytes) : Except FileFault Unit × Disk :=
  makeDirectoryFrom (path.length + 1) disk path

/-- Adds to the content of a file. -/
def append (disk : Disk) (path content : Bytes) : Except FileFault Unit × Disk :=
  match disk.find path with
  | .error errno => (.error (.onPath "write" path errno), disk)
  | .ok (_, .directory _) => (.error (.onPath "write" path .isDirectory), disk)
  | .ok (place, .file mode old) => (.ok (), disk.put place (.file mode (old ++ content)))

/-- Sets permission bits. -/
def setMode (disk : Disk) (path : Bytes) (mode : Nat) : Except FileFault Unit × Disk :=
  match disk.find path with
  | .error errno => (.error (.onPath "chmod" path errno), disk)
  | .ok (place, .file _ content) => (.ok (), disk.put place (.file (mode % 0o1000) content))
  | .ok (place, .directory _) => (.ok (), disk.put place (.directory (mode % 0o1000)))

/-- The disk without a place. -/
def erase (disk : Disk) (place : Place) : Disk :=
  { disk with nodes := disk.nodes.filter fun entry => entry.1 != place }

/-- Removes a file. -/
def removeFile (disk : Disk) (path : Bytes) : Except FileFault Unit × Disk :=
  match disk.find path with
  | .error errno => (.error (.onPath "remove" path errno), disk)
  | .ok (_, .directory _) => (.error (.onPath "remove" path .isDirectory), disk)
  | .ok (place, .file _ _) => (.ok (), disk.erase place)

/-- Gives a file another path, in the place of a file that is there. -/
def rename (disk : Disk) (source target : Bytes) : Except FileFault Unit × Disk :=
  match disk.find source with
  | .error errno => (.error (.onRename source target errno), disk)
  | .ok (_, .directory _) => (.error (.onRename source target .isDirectory), disk)
  | .ok (origin, .file mode content) =>
      match disk.place target with
      | .error errno => (.error (.onRename source target errno), disk)
      | .ok place =>
          match disk.node? place with
          | some (.directory _) => (.error (.onRename source target .alreadyExists), disk)
          | _ => (.ok (), (disk.erase origin).put place (.file mode content))

/-- Why no temporary file of a pattern can be made in a directory that is there. Its number may have
ten digits.
-/
def temporaryFault? (directory pattern : Bytes) : Option FileFault :=
  if pattern.contains 0x2f then
    some (.onPath "createtemp" pattern (.other "pattern contains path separator"))
  else if pattern.contains 0 then
    some (.onPath "open" (Path.inside directory pattern) .invalidArgument)
  else if 255 < pattern.length + 9 || pathLimit ≤ (Path.inside directory pattern).length + 9 then
    some (.onPath "open" (Path.inside directory pattern) .nameTooLong)
  else none

/-- Makes an empty file under a path, or under the path with more stars if something is there, each
of them standing for another number. Only so many numbers are tried.
-/
def createNumbered : (tries : Nat) → (disk : Disk) → (path : Bytes) → Except FileFault Bytes × Disk
  | 0, disk, path => (.error (.onPath "createtemp" path .alreadyExists), disk)
  | tries + 1, disk, path =>
      match disk.place path with
      | .error errno => (.error (.onPath "open" path errno), disk)
      | .ok place =>
          match disk.node? place with
          | some _ => createNumbered tries disk (path ++ "*")
          | none => (.ok path, disk.put place (.file 0o600 []))

/-- Makes an empty file in a directory and returns its path. -/
def createTemporary (disk : Disk) (directory pattern : Bytes) : Except FileFault Bytes × Disk :=
  match temporaryFault? directory pattern with
  | some fault => (.error fault, disk)
  | none => createNumbered 10000 disk (Path.inside directory pattern)

/-- Opens a directory. -/
def openDirectory (disk : Disk) (path : Bytes) : Except FileFault Unit :=
  match disk.find path with
  | .error errno => .error (.onPath "open" path errno)
  | .ok _ => .ok ()

/-- The calls on a disk by which a file is replaced. -/
def calls : FileCalls (StateM Disk) where
  makeDirectory path := fun disk => disk.makeDirectory path
  createTemporary directory pattern := fun disk => disk.createTemporary directory pattern
  append path content := fun disk => disk.append path content
  setMode path mode := fun disk => disk.setMode path mode
  sync _ := fun disk => (.ok (), disk)
  close _ := fun disk => (.ok (), disk)
  rename source target := fun disk => disk.rename source target
  remove path := fun disk => disk.removeFile path
  openDirectory path := fun disk => (disk.openDirectory path, disk)
  closeDirectory _ := fun disk => (.ok (), disk)

/-- The path of the temporary file for a path, with a star for its number. -/
def temporary (path : Bytes) : Bytes :=
  Path.inside (Path.directory path) (FileCalls.temporaryFront path ++ "*")

/-- What the calls that replace a file come to, all at once, when the name of the temporary file is
free. Missing directories are made, and stay when the file cannot be replaced.
-/
def replace (disk : Disk) (path content : Bytes) (mode : Nat) : Except FileFault Unit × Disk :=
  let (made, disk) := disk.makeDirectory (Path.directory path)
  match made with
  | .error fault => (.error fault, disk)
  | .ok () =>
      match temporaryFault? (Path.directory path) (FileCalls.temporaryFront path ++ "*") with
      | some fault => (.error fault, disk)
      | none =>
          match disk.place path with
          | .error errno => (.error (.onRename (temporary path) path errno), disk)
          | .ok place =>
              match disk.node? place with
              | some (.directory _) =>
                  (.error (.onRename (temporary path) path .alreadyExists), disk)
              | _ => (.ok (), disk.put place (.file (mode % 0o1000) content))

/-- Writes a file in place. Missing directories are made, and an old file keeps its permission
bits.
-/
def create (disk : Disk) (path content : Bytes) : Except FileFault Unit × Disk :=
  let (made, disk) := disk.makeDirectory (Path.directory path)
  match made with
  | .error fault => (.error fault, disk)
  | .ok () =>
      match disk.place path with
      | .error errno => (.error (.onPath "open" path errno), disk)
      | .ok place =>
          match disk.node? place with
          | some (.directory _) => (.error (.onPath "open" path .isDirectory), disk)
          | some (.file mode _) => (.ok (), disk.put place (.file mode content))
          | none => (.ok (), disk.put place (.file 0o644 content))

/-- Copies a file with its permission bits. -/
def copy (disk : Disk) (source target : Bytes) : Except FileFault Unit × Disk :=
  match disk.read source with
  | .error fault => (.error fault, disk)
  | .ok content => disk.replace target content (disk.modeOf source)

/-- Replaces the content of a file and keeps its permission bits. -/
def write (disk : Disk) (path content : Bytes) : Except FileFault Unit × Disk :=
  disk.replace path content (disk.modeOf path)

/-- Deletes what stands under a path and everything below it, if there is any. A path that ends in
the name of a directory inside itself deletes nothing, and one that ends in a parent's name only
empties that parent.
-/
def delete (disk : Disk) (path : Bytes) : Disk :=
  let target := Bytes.trimBack (· == 0x2f) path
  if (Bytes.split 0x2f path).getLast? == some Path.here then disk
  else
    match disk.place target with
    | .error _ => disk
    | .ok place =>
        if Path.base target == Path.parent then
          { disk with nodes := disk.nodes.filter fun (p, _) => !(place.isPrefixOf p && p != place) }
        else disk.remove place

/-- The disk as a store for a run that may have been told to stop before it starts. -/
def store (cancelled : Bool) : Store (StateM Disk) FileFault where
  read path := fun disk => (disk.read path, disk)
  isPresent path := fun disk => (disk.isPresent path, disk)
  copy source target := fun disk => disk.copy source target
  write path content := fun disk => disk.write path content
  isCancelled := fun disk => (cancelled, disk)

end Disk

end FormMigrate
