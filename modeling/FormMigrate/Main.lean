import FormMigrate.App.Run
import Std.Time

/-! The command line: the program on the files, the clock and the streams of the system. -/

namespace FormMigrate.Host

/-- The string of a text; stray bytes become replacement characters. -/
def stringOf (s : Bytes) : String := String.ofList (Utf8.chars s)

/-- The bytes of a text as the system takes them. -/
def packed (s : Bytes) : ByteArray := ⟨s.toArray⟩

/-- The reason of a system error. -/
def errnoOf (e : IO.Error) : Errno :=
  match e with
  | .noFileOrDirectory _ _ _ => .noEntry
  | .alreadyExists _ _ _ => .alreadyExists
  | .inappropriateType _ code _ => if code == 20 then .notDirectory else .isDirectory
  | .invalidArgument _ _ _ => .invalidArgument
  | other => .other (toString other)

/-- The result of an action, with a system error as a fault of an operation on a path. -/
def guarded {α : Type} (operation path : Bytes) (action : IO α) : IO (Except FileFault α) := do
  try
    return .ok (← action)
  catch e =>
    return .error (.onPath operation path (errnoOf e))

/-- The content of a file. -/
def read (path : Bytes) : IO (Except FileFault Bytes) :=
  guarded "open" path do return (← IO.FS.readBinFile (stringOf path)).data.toList

/-- What stands under a path. -/
def kind (path : Bytes) : IO (Except FileFault FileKind) :=
  guarded "stat" path do
    let place ← IO.FS.realPath (stringOf path)
    return if ← place.isDir then .directory else .file

/-- Makes an empty file in a directory, with a number in place of the star of the pattern. -/
def createTemporary (directory pattern : Bytes) : IO (Except FileFault Bytes) := do
  let number ← IO.rand 0 0xffffffff
  let path := Path.inside directory (pattern.dropLast ++ Bytes.ofNat number)
  guarded "open" path do
    let _ ← IO.FS.Handle.mk (stringOf path) .writeNew
    return path

/-- Adds to the content of a file. -/
def append (path content : Bytes) : IO (Except FileFault Unit) :=
  guarded "write" path do
    let handle ← IO.FS.Handle.mk (stringOf path) .append
    handle.write (packed content)
    handle.flush

/-- Sets the permission bits of a file. -/
def setMode (path : Bytes) (mode : Nat) : IO (Except FileFault Unit) :=
  guarded "chmod" path do
    let access (bits : Nat) : IO.AccessRight :=
      ⟨bits.testBit 2, bits.testBit 1, bits.testBit 0⟩
    IO.setAccessRights (stringOf path) ⟨access (mode / 64), access (mode / 8), access mode⟩

/-- Gives a file another path. -/
def rename (source target : Bytes) : IO (Except FileFault Unit) := do
  match ← guarded "rename" source (IO.FS.rename (stringOf source) (stringOf target)) with
  | .error (.onPath _ _ errno) => return .error (.onRename source target errno)
  | outcome => return outcome

/-- How files are replaced. A file is open only while it is written to, and its content is stored
when the system sees fit.
-/
def calls : FileCalls IO where
  makeDirectory path := guarded "mkdir" path (IO.FS.createDirAll (stringOf path))
  createTemporary
  append
  setMode
  sync _ := return .ok ()
  close _ := return .ok ()
  rename
  remove path := guarded "remove" path (IO.FS.removeFile (stringOf path))
  openDirectory _ := return .ok ()
  closeDirectory _ := return .ok ()

/-- Replaces a file as a whole, making the directories above it. -/
def replace (path content : Bytes) : IO (Except FileFault Unit) := calls.replace path content 0o644

/-- Copies a file. -/
def copy (source target : Bytes) : IO (Except FileFault Unit) := do
  match ← read source with
  | .ok content => replace target content
  | .error fault => return .error fault

/-- What a walk through a path comes to, under a name. -/
partial def walkNamed (path name : Bytes) : IO (List (Except FileFault WalkEntry)) := do
  match ← kind path with
  | .error fault => return [.error fault]
  | .ok .file => return [.ok ⟨path, name, .file⟩]
  | .ok .directory =>
      let mut visits : List (Except FileFault WalkEntry) := [.ok ⟨path, name, .directory⟩]
      match ← guarded "open" path do (← IO.FS.realPath (stringOf path)).readDir with
      | .error fault => visits := visits ++ [.error fault]
      | .ok entries =>
          for entry in entries do
            visits := visits ++ (← walkNamed (Path.join [path, entry.fileName]) entry.fileName)
      return visits

/-- The files of the system. -/
def workspace (workingDirectory : Bytes) : Workspace IO where
  store := {
    read
    isPresent := fun path => return (← kind path).isOk
    copy
    write := replace
    isCancelled := return false }
  workingDirectory
  kind
  calls
  walk path := walkNamed path (Path.base path)

/-- The environment of the process. -/
def environment : IO Environment := do
  match ← read "/proc/self/environ" with
  | .ok content => return .ofTexts (Bytes.split 0 content)
  | .error _ => return {}

/-- The local time as a run's timestamp. -/
def timestamp : IO Bytes := do
  return (← Std.Time.PlainDateTime.now).format "uuuuMMdd'T'HHmmss"

/-- The journal that the arguments ask for. -/
def journal (arguments : List Bytes) (transcript : Transcript) : Bytes :=
  match Request.parse arguments with
  | .ok (.run invocation) =>
      Journal.render (.ofWord invocation.logFormat) (.ofWord invocation.logLevel)
        transcript.journal
  | _ => []

end FormMigrate.Host

open FormMigrate in
/-- Runs the program and returns its exit status. -/
def main (arguments : List String) : IO UInt32 := do
  let arguments := arguments.map Bytes.ofString
  let directory ← IO.currentDir
  let (outcome, transcript) ←
    (App.execute (Host.workspace directory.toString) (← Host.environment)
      (← Host.timestamp) arguments).play
  (← IO.getStdout).write (Host.packed transcript.output)
  let errors ← IO.getStderr
  errors.write (Host.packed (Host.journal arguments transcript))
  match outcome with
  | .ok () => return 0
  | .error failure =>
      errors.write (Host.packed (failure.status.text ++ [0x0a]))
      return failure.status.code.toNat.toUInt32
