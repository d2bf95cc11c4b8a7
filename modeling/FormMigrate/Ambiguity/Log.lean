import FormMigrate.Text.Clip

/-! The ambiguity log: call sites that a person has to look at. -/

namespace FormMigrate

/-- One call that was left alone or converted only in part. -/
structure Record where
  file : Bytes
  pos : Int
  line : Nat
  snippet : Bytes
  reason : Bytes
  deriving DecidableEq, Repr

namespace Record

/-- How many bytes of source a record keeps. -/
def maxSnippet : Nat := 200

/-- The record of an offset and the line that holds it. -/
def atLine (file : Bytes) (pos : Int) (line : Nat) (snippet reason : Bytes) : Record :=
  ⟨file, pos, line, Bytes.clip snippet maxSnippet, reason⟩

/-- The record of an offset in a text, whose lines are counted. -/
def ofOffset (file src : Bytes) (pos : Int) (snippet reason : Bytes) : Record :=
  atLine file pos (Bytes.lineAt src pos) snippet reason

end Record

/-- An ordered list of records. -/
structure AmbiguityLog where
  records : List Record := []
  deriving DecidableEq, Repr

namespace AmbiguityLog

/-- The log with one more record at its end. -/
def add (log : AmbiguityLog) (record : Record) : AmbiguityLog := ⟨log.records ++ [record]⟩

/-- The log followed by another one. -/
def merge (log other : AmbiguityLog) : AmbiguityLog := ⟨log.records ++ other.records⟩

/-- The number of records. -/
def size (log : AmbiguityLog) : Nat := log.records.length

end AmbiguityLog

end FormMigrate
