import FormMigrate.File.Path
import FormMigrate.Manifest.Document
import FormMigrate.Report.Diff
import FormMigrate.Run.Migration

/-! The report that a person reads: one text for each stage of a run. -/

namespace FormMigrate

/-- How a stretch of text is set off. -/
inductive Style where
  | cyan
  | yellow
  | gray
  | green
  | red
  | bold
  deriving DecidableEq, Repr

/-- The terminal's code of a style. -/
def Style.code : Style → Bytes
  | .cyan => "36"
  | .yellow => "33"
  | .gray => "90"
  | .green => "32"
  | .red => "31"
  | .bold => "1"

/-- What the report shows and how. -/
structure Console where
  verbose : Bool := false
  colored : Bool := true
  /-- How many changed files a preview shows a diff of. -/
  samples : Nat
  /-- How many lines of a changed file a diff spans. -/
  diffLines : Nat
  /-- The name of the ambiguity log. -/
  ambiguousLog : Bytes

namespace Console

/-- How many bytes of a line a diff shows. -/
def maxLine : Nat := 200

/-- The report of the given settings. A negative number of diffs means none, and defaults stand in
for a height that is not positive and for an empty name.
-/
def ofSettings (verbose colored : Bool) (samples diffLines : Int) (ambiguousLog : Bytes)
    : Console where
  verbose
  colored
  samples := samples.toNat
  diffLines := if diffLines ≤ 0 then 6 else diffLines.toNat
  ambiguousLog := if ambiguousLog.isEmpty then "ambiguous.log" else ambiguousLog

/-- Sets a text off, empty or not, unless the report has no colours. -/
def paint (console : Console) (style : Style) (s : Bytes) : Bytes :=
  if console.colored then "\x1b[" ++ style.code ++ "m" ++ s ++ "\x1b[0m" else s

/-- Texts on lines of their own. -/
def lines (texts : List Bytes) : Bytes := texts.flatMap fun s => s ++ [0x0a]

/-- The target and the mode of a run. -/
def banner (console : Console) (target : Bytes) (apply : Bool) : Bytes :=
  lines [
    console.paint .cyan ("Target: " ++ target),
    if apply then
      console.paint .yellow "Mode: APPLY (files will be modified, backups created)"
    else console.paint .cyan "Mode: DRY-RUN (no files will be written)"]

/-- A target without templates. -/
def noFiles (target extension : Bytes) : Bytes :=
  lines ["No " ++ extension ++ " files found under " ++ target ++ "."]

/-- The last change of a file in a run. -/
def changeOf? (result : RunResult) (path : Bytes) : Option Change :=
  result.changed.reverse.find? fun change => change.path == path

/-- The lines on one file. A preview always names the files that it would modify; everything else
is told only on request.
-/
def fileLines (console : Console) (result : RunResult) (apply : Bool) (path : Bytes) : List Bytes :=
  match changeOf? result path with
  | none =>
      if console.verbose then [console.paint .gray "[SKIP]" ++ " No change: " ++ path] else []
  | some change =>
      if apply then
        if console.verbose then
          [console.paint .green "[WROTE]" ++ " " ++ path ++ " (backup: " ++ change.backup ++ ")"]
        else []
      else [console.paint .yellow "[DRY]" ++ " Would modify: " ++ path]

/-- The lines on the files of a run. -/
def files (console : Console) (result : RunResult) (apply : Bool) : Bytes :=
  lines (result.files.flatMap (console.fileLines result apply))

/-- The manifest of an applied run. -/
def manifestWritten (console : Console) (path : Bytes) : Bytes :=
  lines [console.paint .cyan ("Manifest written: " ++ Path.base path)]

/-- The totals of a run. -/
def summary (console : Console) (result : RunResult) : Bytes :=
  let count := Bytes.ofNat result.ambiguous.size
  let shown := if result.ambiguous.size == 0 then count else console.paint .yellow count
  lines [
    [],
    console.paint .bold "Summary:",
    " - Template files scanned: " ++ Bytes.ofNat result.files.length,
    " - Files changed: " ++ Bytes.ofNat result.changed.length,
    " - Ambiguous occurrences: " ++ shown ++ " (see " ++ console.ambiguousLog ++ ")"]

/-- A line of a diff in the colour of its mark. -/
def paintDiff (console : Console) (line : Bytes) : Bytes :=
  match line with
  | 0x2d :: _ => console.paint .red line
  | 0x2b :: _ => console.paint .green line
  | _ => line

/-- The diff of one change under its path. -/
def sample (console : Console) (change : Change) : List Bytes :=
  let diff := Diff.snippet change.before change.after console.diffLines maxLine
  [] :: console.paint .bold ("== " ++ change.path ++ " ==")
    :: if diff.isEmpty then [("(no textual diff detected)" : Bytes)]
      else diff.map console.paintDiff

/-- The diffs of a preview, or the closing note of an applied run. -/
def samplesReport (console : Console) (result : RunResult) (apply : Bool) : Bytes :=
  if apply then lines [[], "Changes applied. Check the backups and run your tests."]
  else if result.changed.isEmpty then []
  else
    let heading : List Bytes :=
      if console.samples == 0 then []
      else [[], "Sample diffs (first " ++ Bytes.ofNat console.samples ++ " files):"]
    lines (heading ++ (result.changed.take console.samples).flatMap console.sample
      ++ [[], "Run with -apply to write changes."])

/-- What a rollback did, given the wording of its failures. -/
def rollback (console : Console) (manifest : Bytes) (restored : List BackupEntry)
    (failures : List Bytes) : Bytes :=
  let heading := console.paint .cyan ("Rollback using manifest: " ++ manifest)
  if restored.isEmpty && failures.isEmpty then
    lines [heading, "Nothing to rollback in manifest."]
  else
    let shown :=
      if console.verbose then
        restored.map fun entry =>
          console.paint .green "[RESTORED]" ++ " " ++ entry.file ++ " from " ++ entry.backup
      else []
    lines (heading :: failures.map (console.paint .red) ++ shown
      ++ ["Rollback complete. Restored " ++ Bytes.ofNat restored.length ++ " files."])

end Console

end FormMigrate
