import FormMigrate.Ambiguity.Log
import FormMigrate.Json.Reader

/-! The ambiguity log as a JSON document, and back. -/

namespace FormMigrate

namespace Record

/-- A record as an object. -/
def toJson (record : Record) : Json :=
  .object [
    Json.textMember "file" record.file,
    ("pos", Json.ofInt record.pos),
    ("line", Json.ofInt record.line),
    Json.textMember "snippet" record.snippet,
    Json.textMember "reason" record.reason]

end Record

namespace AmbiguityLog

/-- The log as an array of records. -/
def toJson (log : AmbiguityLog) : Json := .array (log.records.map Record.toJson)

/-- The text of the log file. -/
def encode (log : AmbiguityLog) : Bytes := Json.print .plain log.toJson

end AmbiguityLog

end FormMigrate
