import FormMigrate.Ambiguity.Log
import FormMigrate.Call.Site

/-! A keyword pass: one sweep over a text that answers each call of a keyword where it stands.
The text changes under the sweep, which goes on behind what it has replaced.
-/

namespace FormMigrate

/-- A remark for the ambiguity log about the call at hand. -/
structure Note where
  snippet : Bytes
  reason : Bytes
  deriving DecidableEq, Repr

/-- What becomes of a call: the text that takes its place, if any, and the remarks made on the
way.
-/
structure Reply where
  replacement : Option Bytes
  notes : List Note
  deriving DecidableEq, Repr

/-- A replacement without a remark. -/
abbrev Reply.accept (text : Bytes) : Reply := ⟨some text, []⟩

/-- No replacement, but a remark on why. -/
abbrev Reply.decline (note : Note) : Reply := ⟨none, [note]⟩

/-- Answers every call of one keyword. -/
structure Pass where
  keyword : Bytes
  build : CallSite → Reply

/-- A sweep under way: the text as it stands, the offset where the scan goes on, and the records
made so far.
-/
structure Sweep where
  text : Bytes
  next : Nat := 0
  records : List Record := []
  deriving DecidableEq, Repr

namespace Sweep

/-- The offset of the next marker. -/
def find? (sweep : Sweep) (marker : Bytes) : Option Nat :=
  (Bytes.indexFold? marker (sweep.text.drop sweep.next)).map (sweep.next + ·)

/-- Whether the byte before an offset belongs to a name. -/
def followsName (sweep : Sweep) (pos : Nat) : Bool :=
  0 < pos && sweep.text[pos - 1]?.any Byte.isNamePart

/-- Goes on at another offset. -/
def resume (sweep : Sweep) (next : Nat) : Sweep := { sweep with next }

/-- Adds a record about an offset of the text as it stands. -/
def remark (sweep : Sweep) (file : Bytes) (pos : Nat) (note : Note) : Sweep :=
  { sweep with
    records := sweep.records ++ [Record.ofOffset file sweep.text pos note.snippet note.reason] }

/-- Puts new text in the place of the bytes from one offset up to another, and goes on behind
it.
-/
def replace (sweep : Sweep) (first last : Nat) (text : Bytes) : Sweep :=
  { sweep with
    text := sweep.text.take first ++ text ++ sweep.text.drop last
    next := first + text.length }

end Sweep

namespace Pass

/-- What calls of the pass start with, up to the case of letters. -/
def marker (pass : Pass) : Bytes := facade ++ pass.keyword

/-- How much source is kept of a call that is never closed. -/
def unbalancedExcerpt : Nat := 80

/-- The remark about a call that is never closed. -/
def unbalancedNote (pass : Pass) (source : Bytes) : Note :=
  ⟨Bytes.clip source unbalancedExcerpt, "unbalanced parentheses in Form::" ++ pass.keyword⟩

/-- Answers the call whose marker stands at an offset and whose parentheses enclose an extent. A
call that is replaced is not scanned again, nor is one that is left alone.
-/
def answer (pass : Pass) (file : Bytes) (pos : Nat) (extent : Extent) (sweep : Sweep) : Sweep :=
  let reply := pass.build ⟨pass.keyword, extent.inner⟩
  let noted := reply.notes.foldl (Sweep.remark · file pos) sweep
  match reply.replacement with
  | none => noted.resume (extent.closing + 1)
  | some text => noted.replace pos (extent.closing + 1) text

/-- Deals with the marker at an offset. Names that merely end or start like it are no calls; a
call that is never closed gets a record.
-/
def visit (pass : Pass) (file : Bytes) (pos : Nat) (sweep : Sweep) : Sweep :=
  let behind := pos + pass.marker.length
  if sweep.followsName pos then sweep.resume behind
  else
    match CallSite.opening? sweep.text behind with
    | none => sweep.resume behind
    | some opening =>
        match Extent.extract sweep.text opening with
        | .error _ =>
            (sweep.remark file pos (pass.unbalancedNote (sweep.text.drop pos))).resume behind
        | .ok extent => pass.answer file pos extent sweep

/-- The sweep after the next marker, if there is one. -/
def step (pass : Pass) (file : Bytes) (sweep : Sweep) : Option Sweep :=
  (sweep.find? pass.marker).map fun pos => pass.visit file pos sweep

/-- Remarks add one record each and leave the text and the place of the scan alone. -/
theorem foldl_remark (notes : List Note) (file : Bytes) (pos : Nat) (sweep : Sweep)
    : notes.foldl (Sweep.remark · file pos) sweep
      = { sweep with
          records := sweep.records
            ++ notes.map fun note =>
                Record.ofOffset file sweep.text pos note.snippet note.reason } := by
  induction notes generalizing sweep with
  | nil => simp
  | cons note rest ih =>
      rw [List.foldl_cons, ih]
      simp [Sweep.remark]

/-- Every step leaves less of the text to scan, also where the text grows.
Witness: the scan goes on behind the marker or behind the call, and a replacement is no part of
what is left.
-/
theorem step_unscanned_lt {pass : Pass} {file : Bytes} {sweep further : Sweep}
    (h : pass.step file sweep = some further)
    : further.text.length - further.next < sweep.text.length - sweep.next := by
  obtain ⟨pos, found, rfl⟩ := Option.map_eq_some_iff.mp h
  obtain ⟨k, index, rfl⟩ := Option.map_eq_some_iff.mp found
  have inside := Bytes.indexFold?_add_length_le index
  have nonempty : 0 < pass.marker.length := by
    have : 0 < facade.length := by decide
    rw [marker, List.length_append]
    omega
  rw [List.length_drop] at inside
  simp only [visit]
  split
  · simp only [Sweep.resume]
    omega
  · split
    · simp only [Sweep.resume]
      omega
    · rename_i opening opens
      have behind : sweep.next + k + pass.marker.length ≤ opening := by
        obtain ⟨gap, _, rfl⟩ := Option.map_eq_some_iff.mp opens
        omega
      split
      · simp only [Sweep.resume, Sweep.remark]
        omega
      · rename_i extent extracted
        have closes := Extent.closing_lt_of_extract extracted
        simp only [answer, foldl_remark]
        split
        · simp only [Sweep.resume]
          omega
        · simp only [Sweep.replace, List.length_append, List.length_take, List.length_drop]
          omega

/-- Steps until no marker is left. -/
def run (pass : Pass) (file : Bytes) (sweep : Sweep) : Sweep :=
  match h : pass.step file sweep with
  | none => sweep
  | some further =>
      have := step_unscanned_lt h
      run pass file further
termination_by sweep.text.length - sweep.next

/-- The sweep over a source text. -/
def sweep (pass : Pass) (file src : Bytes) : Sweep := pass.run file ⟨src, 0, []⟩

end Pass

end FormMigrate
