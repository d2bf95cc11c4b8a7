import FormMigrate.Json.Printer
import FormMigrate.Text.Blank
import FormMigrate.Text.Quoted

/-! The journal: what the program notes for whoever operates it, one line an entry. -/

namespace FormMigrate

/-- How much an entry matters, least first. -/
inductive LogLevel where
  | debug
  | info
  | warn
  | error
  deriving DecidableEq, Repr

namespace LogLevel

/-- The place of a level among all levels. -/
def rank : LogLevel → Nat
  | .debug => 0
  | .info => 1
  | .warn => 2
  | .error => 3

/-- The name of a level in a line. -/
def name : LogLevel → Bytes
  | .debug => "DEBUG"
  | .info => "INFO"
  | .warn => "WARN"
  | .error => "ERROR"

/-- The level that a word asks for; every other text asks for warnings. -/
def ofWord (word : Bytes) : LogLevel :=
  if word == Bytes.ofString "debug" then .debug
  else if word == Bytes.ofString "info" then .info
  else if word == Bytes.ofString "error" then .error
  else .warn

end LogLevel

/-- How entries are written. -/
inductive LogFormat where
  | text
  | json
  deriving DecidableEq, Repr

/-- The format that a word asks for; every other text asks for plain lines. -/
def LogFormat.ofWord (word : Bytes) : LogFormat :=
  if word == Bytes.ofString "json" then .json else .text

/-- The value of an attribute. -/
inductive LogValue where
  | text (s : Bytes)
  | count (n : Nat)
  | bool (b : Bool)
  | texts (list : Option (List Bytes))
  | failure (message : Option Bytes)
  deriving DecidableEq, Repr

/-- An entry with its attributes in order. -/
structure LogEntry where
  level : LogLevel
  message : Bytes
  attributes : List (Bytes × LogValue) := []
  deriving DecidableEq, Repr

namespace Journal

/-- Whether a unit makes a value need quotes: blanks, equals signs, quotes and all that cannot be
printed.
-/
def needsQuotes : Unit8 → Bool
  | .stray _ => true
  | .char c =>
      if c.toNat < 0x80 then c == ' ' || c == '=' || c == '"' || c.toNat < 0x20
      else c == Utf8.replacement || isWhiteSpace c || !isPrintable c

/-- A text in a plain line. -/
def plainText (s : Bytes) : Bytes :=
  if s.isEmpty || (Utf8.units s).any needsQuotes then Quoted.text s else s

/-- A value in a plain line. -/
def plainValue : LogValue → Bytes
  | .text s => plainText s
  | .count n => Bytes.ofNat n
  | .bool b => if b then "true" else "false"
  | .texts list => plainText ("[" ++ Bytes.join " " (list.getD []) ++ "]")
  | .failure message => plainText (message.getD "<nil>")

/-- A value in an object. -/
def jsonValue : LogValue → Bytes
  | .text s => Json.quoted .journal s
  | .count n => Bytes.ofNat n
  | .bool b => if b then "true" else "false"
  | .texts none => "null"
  | .texts (some list) => "[" ++ Bytes.join "," (list.map (Json.quoted .plain)) ++ "]"
  | .failure none => "null"
  | .failure (some message) => Json.quoted .journal message

/-- The attributes of an entry with its level and its message before them. -/
def fields (entry : LogEntry) : List (Bytes × LogValue) :=
  ("level", .text entry.level.name) :: ("msg", .text entry.message) :: entry.attributes

/-- The line of an entry. -/
def line (format : LogFormat) (entry : LogEntry) : Bytes :=
  match format with
  | .text =>
      Bytes.join " " ((fields entry).map fun (name, value) => name ++ "=" ++ plainValue value)
        ++ [0x0a]
  | .json =>
      [0x7b]
        ++ Bytes.join ","
          ((fields entry).map fun (name, value) =>
            Json.quoted .journal name ++ ":" ++ jsonValue value)
        ++ [0x7d, 0x0a]

/-- The lines of the entries that matter at least as much as a level. -/
def render (format : LogFormat) (least : LogLevel) (entries : List LogEntry) : Bytes :=
  (entries.filter fun entry => least.rank ≤ entry.level.rank).flatMap (line format)

end Journal

end FormMigrate
