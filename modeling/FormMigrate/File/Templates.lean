import FormMigrate.File.Workspace

/-! Finding the templates of a run. -/

namespace FormMigrate

/-- Why no templates can be listed. -/
inductive TemplateError where
  | emptyExtension
  | notFound (path : Bytes)
  | inaccessible (path : Bytes) (fault : FileFault)
  | wrongExtension (extension path : Bytes)
  | walk (fault : FileFault)
  deriving DecidableEq, Repr

/-- The wording of a template error. -/
def TemplateError.message : TemplateError → Bytes
  | .emptyExtension => "extension must not be empty"
  | .notFound path => "path not found: " ++ path
  | .inaccessible path fault => "error accessing path " ++ path ++ ": " ++ fault.message
  | .wrongExtension extension path =>
      "specified file is not a " ++ extension ++ " file: " ++ path
  | .walk fault => fault.message

namespace Templates

/-- The templates found so far and in what a walk comes to next. An entry is one if it is no
directory and its name ends with the extension; a failure ends the walk.
-/
def visit (extension : Bytes) (found : List Bytes)
    : Except FileFault WalkEntry → Except FileFault (List Bytes)
  | .error fault => .error fault
  | .ok entry =>
      .ok
        (if entry.kind != .directory && Bytes.endsWith entry.name extension then
          found ++ [entry.path]
        else found)

variable {m : Type → Type} [Monad m]

/-- The templates at or below a path, in increasing byte order. -/
def find (workspace : Workspace m) (path extension : Bytes)
    : m (Except TemplateError (List Bytes)) := do
  if extension.isEmpty then return .error .emptyExtension
  match (← workspace.walk path).foldlM (visit extension) [] with
  | .ok files => return .ok (Bytes.sort files)
  | .error fault => return .error (.walk fault)

/-- The templates that a path stands for: those below a directory, or a single file. -/
def resolve (workspace : Workspace m) (path extension : Bytes)
    : m (Except TemplateError (List Bytes)) := do
  match ← workspace.kind path with
  | .error fault =>
      return .error (if fault.isNoEntry then .notFound path else .inaccessible path fault)
  | .ok .directory => find workspace path extension
  | .ok .file =>
      if Bytes.endsWith path extension then return .ok [path]
      else return .error (.wrongExtension extension path)

end Templates

end FormMigrate
