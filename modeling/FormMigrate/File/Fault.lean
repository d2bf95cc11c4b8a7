import FormMigrate.Text.Bytes

/-! Why file operations fail. -/

namespace FormMigrate

/-- The system's reason for a failure. -/
inductive Errno where
  | noEntry
  | notDirectory
  | isDirectory
  | alreadyExists
  | invalidArgument
  | nameTooLong
  | other (text : Bytes)
  deriving DecidableEq, Repr

/-- The wording of a reason. -/
def Errno.message : Errno → Bytes
  | .noEntry => "no such file or directory"
  | .notDirectory => "not a directory"
  | .isDirectory => "is a directory"
  | .alreadyExists => "file exists"
  | .invalidArgument => "invalid argument"
  | .nameTooLong => "file name too long"
  | .other text => text

/-- A failed operation on a path, or on the two paths of a renaming. One of them may be behind the
failure to replace a file.
-/
inductive FileFault where
  | onPath (operation path : Bytes) (errno : Errno)
  | onRename (source target : Bytes) (errno : Errno)
  | replacing (path : Bytes) (cause : FileFault)
  deriving DecidableEq, Repr

namespace FileFault

/-- The wording of a fault. -/
def message : FileFault → Bytes
  | .onPath operation path errno => operation ++ " " ++ path ++ ": " ++ errno.message
  | .onRename source target errno =>
      "rename " ++ source ++ " " ++ target ++ ": " ++ errno.message
  | .replacing path cause => "atomic write of " ++ path ++ ": " ++ cause.message

/-- Whether a fault says that nothing is under a path. -/
def isNoEntry : FileFault → Bool
  | .onPath _ _ .noEntry | .onRename _ _ .noEntry => true
  | .replacing _ cause => cause.isNoEntry
  | _ => false

end FileFault

/-- What stands under a path: a directory, or anything else. -/
inductive FileKind where
  | file
  | directory
  deriving DecidableEq, Repr

/-- An entry of a directory tree that a walk comes to. -/
structure WalkEntry where
  path : Bytes
  /-- What the entry is called in its directory. -/
  name : Bytes
  kind : FileKind
  deriving DecidableEq, Repr

end FormMigrate
