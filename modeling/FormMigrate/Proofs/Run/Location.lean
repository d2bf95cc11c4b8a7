import FormMigrate.Proofs.Rule.Location
import FormMigrate.Proofs.Run.Preview

/-! Where the records of a preview point to. A record names a file that was read, but its offset and
its line are those of the text that the rules had made of it by then, which is on no disk.
-/

namespace FormMigrate.Migration

variable {disturbance : Disturbance} {options : RunOptions} {memory later : Memory}
  {result : RunResult} {path : Bytes} {paths : List Bytes}
  {outcome : RunResult × Option (RunError MemoryFault)} {record : Record}

/-- What a step adds to the log are the records of its file. -/
theorem StepCourse.records
    (course : StepCourse (Memory.store disturbance) options result path memory outcome later)
    (made : record ∈ outcome.1.ambiguous.records)
    : record ∈ result.ambiguous.records
      ∨ ∃ before,
          memory.files.get? path = some before
          ∧ record ∈ (Rule.convertAll options.rules path before).records := by
  -- Whatever becomes of a file that was read, its records are merged before.
  have read {before : Bytes} {s₁ : Memory}
      (reads : Reads (Memory.store disturbance) path memory before s₁)
      (made
        : record ∈ (scanned result path
            (Rule.convertAll options.rules path before).records).ambiguous.records)
      : record ∈ result.ambiguous.records
        ∨ ∃ before,
            memory.files.get? path = some before
            ∧ record ∈ (Rule.convertAll options.rules path before).records :=
    (List.mem_append.mp made).imp_right fun own => ⟨before, reads.held.1, own⟩
  cases course with
  | cancelled | unread => exact .inl made
  | unchanged reads | shown reads => exact read reads made
  | applied reads _ _ replaces =>
      cases replaces with
      | unbacked | unwritten | replaced => exact read reads made

/-- The records of a preview are those of files that it came to, as they were all along. -/
theorem RunCourse.records
    (course : RunCourse (Memory.store disturbance) options result paths memory outcome later)
    (shows : options.apply = false) (made : record ∈ outcome.1.ambiguous.records)
    : record ∈ result.ambiguous.records
      ∨ ∃ path ∈ paths, ∃ before,
          memory.files.get? path = some before
          ∧ record ∈ (Rule.convertAll options.rules path before).records := by
  induction course with
  | done => exact .inl made
  | stopped first =>
      refine (first.records made).imp_right ?_
      rintro ⟨before, held, own⟩
      exact ⟨_, .head _, before, held, own⟩
  | onward first _ ih =>
      rcases ih made with earlier | ⟨path, listed, before, held, own⟩
      · refine (first.records earlier).imp_right ?_
        rintro ⟨before, held, own⟩
        exact ⟨_, .head _, before, held, own⟩
      · refine .inr ⟨path, .tail _ listed, before, ?_, own⟩
        rcases first.shows shows with ⟨rfl, -⟩ | rfl <;> exact held

/-- Every record of a preview names a file and points to its call in the text that a pass had made
of it, and in the file itself wherever the text up to the record is left as it was.
-/
theorem preview_locates {options : RunOptions} (shows : options.apply = false)
    (builtIn : ∀ rule ∈ options.rules, rule ∈ Rule.builtIn) {disturbance : Disturbance}
    {paths : List Bytes} {memory : Memory} {record : Record}
    (made
      : record ∈ (run (Memory.store disturbance) options paths memory).1.1.ambiguous.records)
    : record.file ∈ paths
      ∧ ∃ before,
          memory.files.get? record.file = some before
          ∧ ∃ pass text,
              Rule.Stands (options.rules.flatMap Rule.passes) record.file before pass text
              ∧ record.Locates pass.marker text
              ∧ (before.take record.pos.toNat
                  = (Rule.convertAll options.rules record.file before).text.take
                      record.pos.toNat
                → record.Locates pass.marker before) := by
  rcases ran : run (Memory.store disturbance) options paths memory with ⟨outcome, later⟩
  rw [ran] at made
  obtain none | ⟨path, listed, before, held, own⟩ := (runFrom_course ran).records shows made
  · cases none
  · have named := own
    rw [Rule.convertAll_eq_foldl] at named
    obtain rfl := (Rule.foldl_step_records named).1
    exact ⟨listed, before, held, Rule.convertAll_locates builtIn own⟩

/-- A preview of a single file by all rules. -/
def previewed (text : Bytes) : RunResult :=
  (run (Memory.store {}) ⟨Rule.builtIn, false, [], "T"⟩ ["a"] ⟨[("a", text)], []⟩).1.1

/-- A call on the second line that is left alone, with a call behind it that is replaced. -/
theorem preview_locates_ahead
    : let before := Bytes.ofString "\nForm::token(1) Form::text('a')"
      (previewed before).changed = [⟨"a", before, "\nForm::token(1) html()->text('a')", []⟩]
      ∧ ∃ record ∈ (previewed before).ambiguous.records,
          record.pos = 1
          ∧ record.line = 2
          ∧ ∃ pass : Pass, record.Locates pass.marker before := by
  have made
      : (⟨"a", 1, 2, "1", "Form::token() with arguments (skipped)"⟩ : Record)
        ∈ (previewed "\nForm::token(1) Form::text('a')").ambiguous.records := by
    decide +kernel
  refine ⟨by decide +kernel, _, made, rfl, rfl, ?_⟩
  obtain ⟨-, before, held, pass, _, -, -, here⟩ := preview_locates rfl (fun _ known => known) made
  cases held
  exact ⟨pass, here (by decide +kernel)⟩

/-- A call whose array took two lines in the file and takes one now pulls the record of the call
behind it ahead: it points to no call in the file, and to another line than that of its call.
-/
theorem preview_mislocates
    : let before := Bytes.ofString "Form::open([\n'url' => 'x']) Form::token("
      (⟨"a", 34, 1, "Form::token(", "unbalanced parentheses in Form::token"⟩ : Record)
        ∈ (previewed before).ambiguous.records
      ∧ Bytes.startsWithFold facade (before.drop 34) = false
      ∧ Bytes.startsWithFold facade (before.drop 28) = true
      ∧ Bytes.lineAt before 28 = 2 := by
  decide +kernel

end FormMigrate.Migration
