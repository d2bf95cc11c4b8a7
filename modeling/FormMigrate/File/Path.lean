import FormMigrate.Text.Bytes

/-! Paths as texts: cleaning, joining and taking them apart. Nothing here looks at files. -/

namespace FormMigrate.Path

/-- Whether a path starts at the root. -/
def isAbsolute (path : Bytes) : Bool := path.head? == some 0x2f

/-- The names between slashes. -/
def names (path : Bytes) : List Bytes := (Bytes.split 0x2f path).filter fun name => !name.isEmpty

/-- The name of a directory inside itself. -/
def here : Bytes := "."

/-- The name of a directory's parent. -/
def parent : Bytes := ".."

/-- Adds a name to the cleaned names before it, last one first. A parent takes back the name before
it; at the root it is dropped, and elsewhere it stays when there is none to take back.
-/
def push (absolute : Bool) (stack : List Bytes) (name : Bytes) : List Bytes :=
  if name == here then stack
  else if name == parent then
    match stack with
    | [] => if absolute then [] else [parent]
    | top :: below => if top == parent then parent :: stack else below
  else name :: stack

/-- The shortest path that names the same place by its text alone. -/
def clean (path : Bytes) : Bytes :=
  let absolute := isAbsolute path
  let body := Bytes.join "/" ((names path).foldl (push absolute) []).reverse
  if absolute then 0x2f :: body else if body.isEmpty then here else body

/-- Paths one below the other, cleaned; empty ones are left out. -/
def join (parts : List Bytes) : Bytes :=
  let used := parts.filter fun part => !part.isEmpty
  if used.isEmpty then [] else clean (Bytes.join "/" used)

/-- The last name of a path. -/
def base (path : Bytes) : Bytes :=
  match (names path).getLast? with
  | some name => name
  | none => if path.isEmpty then here else [0x2f]

/-- The path of a name in a directory, by their texts alone. -/
def inside (directory name : Bytes) : Bytes :=
  if directory.getLast? == some 0x2f then directory ++ name else directory ++ 0x2f :: name

/-- The path of the entry that names lead to, each joined to the path of the directory it stands in.
-/
def descend (path : Bytes) (below : List Bytes) : Bytes :=
  below.foldl (fun path name => join [path, name]) path

/-- What the entry that names lead to is called. The entry at the path itself has its last name. -/
def nameOf (path : Bytes) (below : List Bytes) : Bytes := below.getLast?.getD (base path)

/-- A path up to its last slash, cleaned. -/
def directory (path : Bytes) : Bytes := clean (Bytes.trimBack (· != 0x2f) path)

/-- The last dot of a path's last name and what follows it, or nothing. -/
def extension (path : Bytes) : Bytes :=
  let name := (path.reverse.takeWhile (· != 0x2f)).reverse
  if name.contains 0x2e then
    0x2e :: (name.reverse.takeWhile (· != 0x2e)).reverse
  else []

/-- A path as seen from a directory. -/
def under (root path : Bytes) : Bytes := if isAbsolute path then path else join [root, path]

/-- The absolute and clean form of a path. -/
def absolute (workingDirectory path : Bytes) : Bytes :=
  if isAbsolute path then clean path else join [workingDirectory, path]

end FormMigrate.Path
