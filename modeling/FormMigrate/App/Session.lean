import FormMigrate.Journal
import FormMigrate.ProgramFailure

/-! Sessions: actions that may end with a failure and leave a report and a journal behind, whether
they do or not.
-/

namespace FormMigrate

/-- What a session has told so far: the report, and the entries of the journal in order. -/
structure Transcript where
  output : Bytes := []
  journal : List LogEntry := []
  deriving DecidableEq, Repr

/-- An action of the program on top of file access. -/
abbrev Session (m : Type → Type) := ExceptT ProgramFailure (StateT Transcript m)

namespace Session

variable {m : Type → Type} [Monad m] {α : Type}

/-- Adds to the report. -/
def tell (output : Bytes) : Session m Unit :=
  modify fun transcript => { transcript with output := transcript.output ++ output }

/-- Adds entries to the journal. -/
def noteAll (entries : List LogEntry) : Session m Unit :=
  modify fun transcript => { transcript with journal := transcript.journal ++ entries }

/-- Adds an entry to the journal. -/
def note (level : LogLevel) (message : Bytes) (attributes : List (Bytes × LogValue) := [])
    : Session m Unit :=
  noteAll [⟨level, message, attributes⟩]

/-- A file access within a session. -/
def access (action : m α) : Session m α := ExceptT.lift (StateT.lift action)

/-- The outcome of a session that starts with nothing told. -/
def play (session : Session m α) : m (Except ProgramFailure α × Transcript) := session.run.run {}

end Session

end FormMigrate
