import FormMigrate.File.Fault
import FormMigrate.File.Path

/-! Replacing a file as a whole, call by call of the system: the content goes to a temporary file in
the same directory, which is then given the path of the file.
-/

namespace FormMigrate

/-- The calls by which a file is replaced. Each of them may fail. -/
structure FileCalls (m : Type → Type) where
  /-- Makes a directory and those above it. -/
  makeDirectory : (path : Bytes) → m (Except FileFault Unit)
  /-- Makes an empty file in a directory, opens it and returns its path. A number that makes the
  name new takes the place of the star that the pattern ends with.
  -/
  createTemporary : (directory pattern : Bytes) → m (Except FileFault Bytes)
  /-- Adds to the content of an open file. -/
  append : (path content : Bytes) → m (Except FileFault Unit)
  /-- Sets the permission bits of an open file. -/
  setMode : (path : Bytes) → (mode : Nat) → m (Except FileFault Unit)
  /-- Waits until what is open under a path is stored for good. -/
  sync : (path : Bytes) → m (Except FileFault Unit)
  /-- Closes an open file. -/
  close : (path : Bytes) → m (Except FileFault Unit)
  /-- Gives a file another path, in the place of a file that is there. -/
  rename : (source target : Bytes) → m (Except FileFault Unit)
  /-- Removes a file. -/
  remove : (path : Bytes) → m (Except FileFault Unit)
  openDirectory : (path : Bytes) → m (Except FileFault Unit)
  closeDirectory : (path : Bytes) → m (Except FileFault Unit)

namespace FileCalls

variable {m : Type → Type} [Monad m]

/-- How the name of a temporary file for a path starts. -/
def temporaryFront (path : Bytes) : Bytes := "." ++ Path.base path ++ ".tmp"

/-- Fills an open file and waits until it is stored. -/
def fill (calls : FileCalls m) (path content : Bytes) (mode : Nat) : m (Except FileFault Unit) := do
  match ← calls.append path content with
  | .error fault => return .error fault
  | .ok () =>
      match ← calls.setMode path mode with
      | .error fault => return .error fault
      | .ok () => calls.sync path

/-- Waits until the names in a directory are stored. A directory that cannot be opened is left at
that.
-/
def syncDirectory (calls : FileCalls m) (path : Bytes) : m (Except FileFault Unit) := do
  match ← calls.openDirectory path with
  | .error _ => return .ok ()
  | .ok () =>
      let synced ← calls.sync path
      let _ ← calls.closeDirectory path
      return synced

/-- Closes a temporary file and gives it the path that it was made for. One that stays temporary is
removed, if that can be done.
-/
def install (calls : FileCalls m) (temporary path : Bytes) : m (Except FileFault Unit) := do
  match ← calls.close temporary with
  | .error fault =>
      let _ ← calls.remove temporary
      return .error fault
  | .ok () =>
      match ← calls.rename temporary path with
      | .error fault =>
          let _ ← calls.remove temporary
          return .error fault
      | .ok () => calls.syncDirectory (Path.directory path)

/-- Replaces a file as a whole, making the directories above it. A temporary file that cannot be
filled is removed, if that can be done.
-/
def replace (calls : FileCalls m) (path content : Bytes) (mode : Nat)
    : m (Except FileFault Unit) := do
  match ← calls.makeDirectory (Path.directory path) with
  | .error fault => return .error fault
  | .ok () =>
      match ← calls.createTemporary (Path.directory path) (temporaryFront path ++ "*") with
      | .error fault => return .error fault
      | .ok temporary =>
          match ← calls.fill temporary content mode with
          | .error fault =>
              let _ ← calls.close temporary
              let _ ← calls.remove temporary
              return .error (.replacing path fault)
          | .ok () => calls.install temporary path

end FileCalls

end FormMigrate
