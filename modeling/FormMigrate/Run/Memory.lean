import FormMigrate.Run.Store

/-! Files in memory, with a log of the calls made on them, calls that fail and a point at which the
run is told to stop.
-/

namespace FormMigrate

/-- Contents by path, each path at most once. -/
abbrev FileMap := List (Bytes × Bytes)

namespace FileMap

/-- The content under a path. -/
def get? (files : FileMap) (path : Bytes) : Option Bytes := List.lookup path files

/-- Sets the content under a path. -/
def set (files : FileMap) (path content : Bytes) : FileMap :=
  match files with
  | [] => [(path, content)]
  | (p, c) :: rest => if p == path then (p, content) :: rest else (p, c) :: set rest path content

/-- Removes a path. -/
def erase (files : FileMap) (path : Bytes) : FileMap := files.filter fun (p, _) => p != path

end FileMap

/-- A call on the files. A copy is named by its target. -/
inductive Call where
  | read (path : Bytes)
  | exists (path : Bytes)
  | copy (target : Bytes)
  | write (path : Bytes)
  deriving DecidableEq, Repr

namespace Call

/-- The name of a call. -/
def name : Call → Bytes
  | .read _ => "read"
  | .exists _ => "exists"
  | .copy _ => "copy"
  | .write _ => "write"

/-- The path of a call. -/
def path : Call → Bytes
  | .read path | .exists path | .copy path | .write path => path

/-- The text of a call. -/
def text (call : Call) : Bytes := call.name ++ " " ++ call.path

end Call

/-- Why a call on files in memory fails. -/
inductive MemoryFault where
  | noSuchFile
  | refused (call : Call)
  deriving DecidableEq, Repr

/-- The wording of a fault. -/
def MemoryFault.message : MemoryFault → Bytes
  | .noSuchFile => "no such file"
  | .refused call => call.name ++ " refused"

/-- Files in memory and the calls made so far. -/
structure Memory where
  files : FileMap := []
  calls : List Call := []

/-- What goes wrong during a run: calls that fail, and the number of read calls at which the run is
told to stop.
-/
structure Disturbance where
  refuses : Call → Bool := fun _ => false
  cancelAfter : Option Nat := none

namespace Memory

/-- The number of read calls so far. -/
def reads (memory : Memory) : Nat :=
  memory.calls.countP fun
    | .read _ => true
    | _ => false

/-- The memory after a call was noted. -/
def note (memory : Memory) (call : Call) : Memory := { memory with calls := memory.calls ++ [call] }

/-- Notes a call and, unless it is refused, performs it. -/
def perform {α : Type} (disturbance : Disturbance) (call : Call)
    (action : FileMap → Except MemoryFault (α × FileMap)) : StateM Memory (Except MemoryFault α) :=
  fun memory =>
    let noted := memory.note call
    if disturbance.refuses call then (.error (.refused call), noted)
    else
      match action memory.files with
      | .error fault => (.error fault, noted)
      | .ok (a, files) => (.ok a, { noted with files })

/-- Files in memory as a store. A copy of a missing file is empty. -/
def store (disturbance : Disturbance) : Store (StateM Memory) MemoryFault where
  read path := perform disturbance (.read path) fun files =>
    match files.get? path with
    | some content => .ok (content, files)
    | none => .error .noSuchFile
  isPresent path := fun memory =>
    ((memory.files.get? path).isSome, memory.note (.exists path))
  copy source target := perform disturbance (.copy target) fun files =>
    .ok ((), files.set target ((files.get? source).getD []))
  write path content := perform disturbance (.write path) fun files =>
    .ok ((), files.set path content)
  isCancelled := fun memory =>
    (disturbance.cancelAfter.any fun limit => limit ≤ memory.reads, memory)

end Memory

end FormMigrate
