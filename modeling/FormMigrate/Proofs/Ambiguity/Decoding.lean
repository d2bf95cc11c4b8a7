import FormMigrate.Ambiguity.Encoding
import FormMigrate.Proofs.Json.Integers
import FormMigrate.Proofs.Manifest.Document
import Mathlib.Logic.Function.Basic

/-! The file of the ambiguity log says what the log holds: read as a document it gives the records
in order, with the replacement character for the stray bytes of their texts. Logs only grow at their
end.
-/

namespace FormMigrate

--------------------------------------------------------------------------------
-- Records from documents
--------------------------------------------------------------------------------

namespace Document

/-- An integer field after a member; null leaves it as it is. -/
def int? (current : Int) : Json → Option Int
  | .null => some current
  | .number numeral => Json.integer? numeral
  | _ => none

/-- A field for a natural number after a member; null leaves it as it is. -/
def nat? (current : Nat) (value : Json) : Option Nat :=
  (int? current value).bind fun n => if 0 ≤ n then some n.toNat else none

end Document

open Document in
/-- The fields of a record. -/
def Record.fields : List (ObjectField Record) := [
  .text "file" Record.file fun record file => { record with file },
  ⟨"pos", fun record value => (int? record.pos value).map fun pos => { record with pos }⟩,
  ⟨"line", fun record value => (nat? record.line value).map fun line => { record with line }⟩,
  .text "snippet" Record.snippet fun record snippet => { record with snippet },
  .text "reason" Record.reason fun record reason => { record with reason }]

/-- The record whose fields are not set. -/
def Record.blank : Record := ⟨[], 0, 0, [], []⟩

namespace AmbiguityLog

/-- The log that a document describes. -/
def ofJson? : Json → Option AmbiguityLog
  | .array elements =>
      (elements.mapM (Document.record? Record.fields Record.blank)).map AmbiguityLog.mk
  | _ => none

/-- The log that a text describes. -/
def decode? (s : Bytes) : Option AmbiguityLog := (Json.parse? s).bind ofJson?

end AmbiguityLog

/-- A record whose texts are sanitized. -/
def Record.sanitized (record : Record) : Record :=
  { record with
    file := Utf8.sanitized record.file
    snippet := Utf8.sanitized record.snippet
    reason := Utf8.sanitized record.reason }

/-- A record whose texts are made of characters alone. -/
structure Record.Valid (record : Record) : Prop where
  file : Utf8.Valid record.file
  snippet : Utf8.Valid record.snippet
  reason : Utf8.Valid record.reason

/-- A log whose texts are sanitized. -/
def AmbiguityLog.sanitized (log : AmbiguityLog) : AmbiguityLog := ⟨log.records.map Record.sanitized⟩

/-- A log of records whose texts are made of characters alone. -/
def AmbiguityLog.Valid (log : AmbiguityLog) : Prop := ∀ record ∈ log.records, record.Valid

--------------------------------------------------------------------------------
-- Reading back
--------------------------------------------------------------------------------

namespace Record

theorem toJson_eq (record : Record)
    : record.toJson
      = .object
          (Document.members fields
            [.text record.file, Json.ofInt record.pos, Json.ofInt record.line, .text record.snippet,
              .text record.reason]) :=
  rfl

theorem int?_ofInt (current n : Int) : Document.int? current (Json.ofInt n).sanitized = some n := by
  rw [Json.ofInt, Json.sanitized, Document.int?, Json.integer?_ofInt]

theorem nat?_ofInt (current n : Nat) : Document.nat? current (Json.ofInt n).sanitized = some n := by
  rw [Document.nat?, int?_ofInt, Option.bind_some, if_pos (Int.natCast_nonneg n), Int.toNat_natCast]

/-- A record reads back from its object, whatever it starts from. -/
theorem record?_toJson (start record : Record)
    : Document.record? fields start record.toJson.sanitized = some record.sanitized := by
  rw [toJson_eq, Document.Spelled.record?_sanitized ⟨by decide, by decide⟩]
  simp only [Document.fill, fields, Json.sanitizedElements, List.zip_cons_cons, List.foldlM_cons,
    int?_ofInt, nat?_ofInt]
  rfl

theorem fits_toJson (record : Record) {depth : Nat} : Json.Fits (depth + 1) record.toJson := by
  refine .object ?_
  intro member listed
  simp only [Json.textMember, List.mem_cons, List.not_mem_nil, or_false] at listed
  rcases listed with rfl | rfl | rfl | rfl | rfl
  · exact .text
  · exact .number (Json.numeral_ofInt record.pos)
  · exact .number (Json.numeral_ofInt record.line)
  · exact .text
  · exact .text

theorem Valid.sanitized_eq {record : Record} (valid : record.Valid) : record.sanitized = record := by
  rw [Record.sanitized, show Utf8.sanitized record.file = _ from valid.file,
    show Utf8.sanitized record.snippet = _ from valid.snippet,
    show Utf8.sanitized record.reason = _ from valid.reason]

end Record

namespace AmbiguityLog

theorem ofJson?_toJson (log : AmbiguityLog) : ofJson? log.toJson.sanitized = some log.sanitized := by
  have each (records : List Record)
      : (Json.sanitizedElements (records.map Record.toJson)).mapM
          (Document.record? Record.fields Record.blank)
        = some (records.map Record.sanitized) := by
    induction records with
    | nil => rfl
    | cons record rest ih =>
        simp [Json.sanitizedElements, List.mapM_cons, Record.record?_toJson, ih]
  simp [toJson, Json.sanitized, ofJson?, each, sanitized]

theorem fits_toJson (log : AmbiguityLog) : Json.Fits Json.depthLimit log.toJson := by
  refine .array ?_
  intro element written
  obtain ⟨record, -, rfl⟩ := List.mem_map.mp written
  exact record.fits_toJson

/-- The text of a log reads back as its records. -/
theorem decode?_encode (log : AmbiguityLog) : decode? log.encode = some log.sanitized := by
  rw [decode?, encode, Json.parse?_print log.fits_toJson, Option.bind_some, ofJson?_toJson]

theorem Valid.sanitized_eq {log : AmbiguityLog} (valid : log.Valid) : log.sanitized = log := by
  have each : log.records.map Record.sanitized = log.records.map id :=
    List.map_congr_left fun record member => (valid record member).sanitized_eq
  rw [sanitized, each, List.map_id]

/-- A log whose texts are characters alone is told by its text. -/
theorem Valid.encode_inj {log other : AmbiguityLog} (valid : log.Valid) (valid' : other.Valid)
    (same : log.encode = other.encode)
    : log = other := by
  have read := decode?_encode log
  rw [same, decode?_encode, valid.sanitized_eq, valid'.sanitized_eq] at read
  exact (Option.some.inj read).symm

end AmbiguityLog

--------------------------------------------------------------------------------
-- Growing logs
--------------------------------------------------------------------------------

/-- Logs by their names. -/
abbrev Logs := Bytes → AmbiguityLog

/-- A call that lets a log grow: by a record about an offset of a text, or by the records of another
log, if there is one.
-/
inductive LogCall where
  | add (log file src : Bytes) (pos : Int) (snippet reason : Bytes)
  | merge (log : Bytes) (other : Option Bytes)

/-- The logs after a call. -/
def Logs.step (logs : Logs) : LogCall → Logs
  | .add log file src pos snippet reason =>
      Function.update logs log ((logs log).add (Record.ofOffset file src pos snippet reason))
  | .merge _ none => logs
  | .merge log (some other) => Function.update logs log ((logs log).merge (logs other))

/-- The logs after calls one after another. -/
def Logs.after (logs : Logs) (calls : List LogCall) : Logs := calls.foldl Logs.step logs

/-- The logs before any call. -/
def Logs.empty : Logs := fun _ => {}

namespace Logs

theorem after_append (logs : Logs) (calls more : List LogCall)
    : logs.after (calls ++ more) = (logs.after calls).after more :=
  List.foldl_append

/-- A call keeps the records of every log in front. -/
theorem prefix_step (logs : Logs) (call : LogCall) (name : Bytes)
    : (logs name).records <+: (logs.step call name).records := by
  cases call with
  | add log file src pos snippet reason =>
      by_cases named : name = log
      · subst named
        simp [step, AmbiguityLog.add]
      · simp [step, named]
  | merge log other =>
      cases other with
      | none => simp [step]
      | some other =>
          by_cases named : name = log
          · subst named
            simp [step, AmbiguityLog.merge]
          · simp [step, named]

/-- Calls keep the records of every log in front, by induction on the calls. -/
theorem prefix_after (logs : Logs) (calls : List LogCall) (name : Bytes)
    : (logs name).records <+: (logs.after calls name).records := by
  induction calls generalizing logs with
  | nil => exact List.prefix_refl _
  | cons call rest ih => exact (logs.prefix_step call name).trans (ih (logs.step call))

/-- Whatever calls made it, a log is what its text reads back as, but for stray bytes, so that logs
made of characters alone have one text only if they have the same records. A log that another one is
merged into holds its own records and then those of the other one, and no call changes a log that it
does not name or what any log held before.
-/
theorem reads_back (calls : List LogCall) (name : Bytes)
    : AmbiguityLog.decode? (empty.after calls name).encode
        = some ⟨(empty.after calls name).records.map Record.sanitized⟩
      ∧ (∀ others other,
          (empty.after calls name).Valid
          → (empty.after others other).Valid
          → (empty.after calls name).encode = (empty.after others other).encode
          → (empty.after calls name).records = (empty.after others other).records)
      ∧ (∀ other,
          (empty.after (calls ++ [.merge name (some other)]) name).records
            = (empty.after calls name).records ++ (empty.after calls other).records
          ∧ ∀ kept ≠ name,
              empty.after (calls ++ [.merge name (some other)]) kept = empty.after calls kept)
      ∧ empty.after (calls ++ [.merge name none]) = empty.after calls
      ∧ ∀ more,
          (empty.after calls name).records <+: (empty.after (calls ++ more) name).records := by
  refine ⟨AmbiguityLog.decode?_encode _, ?_, ?_, ?_, ?_⟩
  · intro others other valid valid' same
    exact congrArg AmbiguityLog.records (valid.encode_inj valid' same)
  · intro other
    rw [after_append]
    constructor
    · simp [after, step, AmbiguityLog.merge]
    · intro kept differs
      simp [after, step, differs]
  · rw [after_append]
    rfl
  · intro more
    rw [after_append]
    exact prefix_after _ more name

/-- A record with a quote, a backslash, a line separator and a control character, added to a log of
its own and merged into another one, or added to that one at once.
-/
theorem reads_back_merged
    : let merged : List LogCall :=
        [.add "file" "a" "x\nForm::token(1)" 2 "\"\\\u2028\t" "why", .merge "run" (some "file")]
      let added : List LogCall := [.add "run" "a" "x\nForm::token(1)" 2 "\"\\\u2028\t" "why"]
      (empty.after merged "run").Valid
      ∧ (empty.after added "run").Valid
      ∧ (empty.after merged "run").encode = (empty.after added "run").encode
      ∧ (empty.after merged "run").records = (empty.after added "run").records := by
  intro merged added
  have held
      : empty.after merged "run" = ⟨[⟨"a", 2, 2, "\"\\\u2028\t", "why"⟩]⟩
        ∧ empty.after added "run" = ⟨[⟨"a", 2, 2, "\"\\\u2028\t", "why"⟩]⟩ := by
    decide +kernel
  have valid : AmbiguityLog.Valid ⟨[⟨"a", 2, 2, "\"\\\u2028\t", "why"⟩]⟩ := by
    intro record member
    rw [List.mem_singleton.mp member]
    exact ⟨by decide +kernel, by decide +kernel, by decide +kernel⟩
  have left := held.1 ▸ valid
  have right := held.2 ▸ valid
  have same : (empty.after merged "run").encode = (empty.after added "run").encode :=
    congrArg AmbiguityLog.encode (held.1.trans held.2.symm)
  exact ⟨left, right, same, (reads_back merged "run").2.1 added "run" left right same⟩

end Logs

end FormMigrate
