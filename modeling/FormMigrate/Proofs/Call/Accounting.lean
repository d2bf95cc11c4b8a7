import FormMigrate.Proofs.Rule.Replies
import FormMigrate.Proofs.Text.Byte
import Mathlib.Data.List.Pairwise

/-! What becomes of each occurrence of a keyword, and which records a pass makes: every occurrence
is replaced, kept with a record, or enclosed in an earlier call.
-/

namespace FormMigrate

--------------------------------------------------------------------------------
-- Statement
--------------------------------------------------------------------------------

/-- What becomes of an occurrence. -/
inductive Outcome where
  | replaced
  | kept
  | enclosed
  deriving DecidableEq, Repr

/-- The outcome of an occurrence with its parenthesis, given the stops of a pass: it is a stop
that is replaced or one that is not, or it stands between the parentheses of an earlier stop.
-/
def Outcome.Holds (stops : List Stop) (pos opening : Nat) : Outcome → Prop
  | .replaced => ∃ stop ∈ stops, stop.start = pos ∧ stop.reply.replacement.isSome = true
  | .kept => ∃ stop ∈ stops, stop.start = pos ∧ stop.reply.replacement = none
  | .enclosed =>
      ∃ stop ∈ stops,
        ∃ extent,
          stop.extent = some extent ∧ stop.opening < pos ∧ opening < extent.closing

theorem Outcome.Holds.cons {stop : Stop} {stops : List Stop} {pos opening : Nat} {outcome : Outcome}
    (h : outcome.Holds stops pos opening)
    : outcome.Holds (stop :: stops) pos opening := by
  cases outcome with
  | replaced | kept | enclosed =>
      obtain ⟨found, member, rest⟩ := h
      exact ⟨found, List.mem_cons_of_mem stop member, rest⟩

/-- The stops of a pass account for every occurrence in a source and for every record.
What a stop shows in the result stands at its target: the replacement, or the source that is kept,
which is the whole call if it is closed and its marker otherwise.
-/
structure Pass.Accounts (pass : Pass) (file src : Bytes) (stops : List Stop) : Prop where
  stopped
    : ∀ stop ∈ stops,
        pass.Occurrence src stop.start stop.opening ∧ pass.Answers src stop
  ordered : stops.Pairwise fun first second => first.finish ≤ second.start
  outcomes
    : ∀ pos opening,
        pass.Occurrence src pos opening
        → ∃! outcome : Outcome, outcome.Holds stops pos opening
  shown
    : ∀ stop ∈ stops,
        stop.reply.replacement.getD ((src.take stop.finish).drop stop.start)
          <+: (pass.sweep file src).text.drop stop.target
  keptRemark
    : ∀ stop ∈ stops, stop.reply.replacement = none → ∃ note, stop.reply.notes = [note]
  replacedRemark
    : ∀ stop ∈ stops,
        ∀ extent,
          stop.extent = some extent
          → stop.reply.replacement.isSome = true
          → stop.reply.notes.length ≤ 1
            ∧ (stop.reply.notes ≠ []
              ↔ pass.keyword = Bytes.ofString "select"
                ∧ Builder.FallsBack ⟨pass.keyword, extent.inner⟩)
  records
    : (pass.sweep file src).records
      = stops.flatMap fun stop =>
          stop.reply.notes.map fun note =>
            Record.ofOffset file (pass.sweep file src).text stop.target note.snippet note.reason
  increasing
    : (pass.sweep file src).records.Pairwise fun first second => first.pos < second.pos

namespace Pass

variable {pass : Pass} {src : Bytes}

--------------------------------------------------------------------------------
-- Occurrences inside calls
--------------------------------------------------------------------------------

/-- No closing parenthesis stands in an occurrence.
Witness: a marker has only letters and colons, then come blanks and the opening parenthesis.
-/
theorem Occurrence.no_closing (regular : pass.Regular) {start opening i : Nat}
    (h : pass.Occurrence src start opening) (behind : start ≤ i) (before : i ≤ opening)
    : src[i]? ≠ some 0x29 := by
  intro closes
  rcases Nat.eq_or_lt_of_le before with rfl | inFront
  · rw [h.parenthesis] at closes
    cases closes
  · obtain ⟨b, same, plain⟩ := h.front_byte regular.worded behind inFront
    rw [closes] at same
    cases same
    exact absurd plain (by decide)

/-- An occurrence behind the parenthesis of a stop, but before the stop ends, stands between the
parentheses of a closed call.
-/
theorem StopsAt.encloses (regular : pass.Regular) {offset target : Nat} {stop : Stop}
    (here : pass.StopsAt src offset target stop) {pos opening : Nat}
    (h : pass.Occurrence src pos opening) (behind : stop.opening < pos)
    (before : pos < stop.finish)
    : ∃ extent,
        stop.extent = some extent ∧ stop.opening < pos ∧ opening < extent.closing := by
  have answers := here.answers
  unfold Answers at answers
  split at answers
  · have := here.occurrence.behind
    omega
  · rename_i extent region
    refine ⟨extent, region, behind, ?_⟩
    have closes := (here.occurrence.closing answers.1).2.2
    by_contra reached
    exact h.no_closing regular (by omega) (Nat.le_of_not_lt reached) closes

--------------------------------------------------------------------------------
-- Outcomes
--------------------------------------------------------------------------------

/-- Every occurrence from the start of a course on has an outcome.
Witness: induction on the course. Before a stop there is none, at the stop it is the stop itself,
and behind the parenthesis of a stop it is enclosed or left to the rest of the course.
-/
theorem Course.outcome_exists (regular : pass.Regular) {offset target : Nat} {stops : List Stop}
    (course : pass.Course src offset target stops) {pos opening : Nat}
    (h : pass.Occurrence src pos opening) (behind : offset ≤ pos)
    : ∃ outcome : Outcome, outcome.Holds stops pos opening := by
  induction course with
  | finished free => exact (free pos opening behind h).elim
  | @stop offset target stop rest here further ih =>
      rcases Nat.lt_trichotomy pos stop.start with before | same | later
      · exact (here.first pos opening behind before h).elim
      · cases replacement : stop.reply.replacement with
        | none => exact ⟨.kept, stop, List.mem_cons_self .., same.symm, replacement⟩
        | some text =>
            exact ⟨.replaced, stop, List.mem_cons_self .., same.symm, by simp [replacement]⟩
      · have inside := here.occurrence.opening_lt_of_lt regular.unbordered h later
        rcases Nat.lt_or_ge pos stop.finish with within | beyond
        · exact ⟨.enclosed, stop, List.mem_cons_self .., here.encloses regular h inside within⟩
        · obtain ⟨outcome, holds⟩ := ih beyond
          exact ⟨outcome, holds.cons⟩

/-- Two stops of a course are one, or one of them ends before the other starts. -/
theorem Course.apart {offset target : Nat} {stops : List Stop}
    (course : pass.Course src offset target stops) {stop other : Stop}
    (member : stop ∈ stops) (member' : other ∈ stops)
    : stop = other ∨ stop.finish ≤ other.start ∨ other.finish ≤ stop.start := by
  have symmetric : Std.Symm fun first second : Stop =>
      first.finish ≤ second.start ∨ second.finish ≤ first.start := ⟨fun _ _ => Or.symm⟩
  have disjoint : stops.Pairwise fun first second =>
      first.finish ≤ second.start ∨ second.finish ≤ first.start := course.ordered.imp Or.inl
  by_cases same : stop = other
  · exact .inl same
  · exact .inr (disjoint.forall member member' same)

theorem Course.stop_unique {offset target : Nat} {stops : List Stop}
    (course : pass.Course src offset target stops) {stop other : Stop}
    (member : stop ∈ stops) (member' : other ∈ stops) (start : stop.start = other.start)
    : stop = other := by
  obtain ⟨_, _, here⟩ := course.stopsAt stop member
  obtain ⟨_, _, here'⟩ := course.stopsAt other member'
  have forward := here.start_lt_finish
  have forward' := here'.start_lt_finish
  rcases course.apart member member' with same | before | before
  · exact same
  · omega
  · omega

/-- A stop does not stand between the parentheses of a stop. -/
theorem Course.not_enclosed {offset target : Nat} {stops : List Stop}
    (course : pass.Course src offset target stops) {stop other : Stop} {extent : Extent}
    (member : stop ∈ stops) (member' : other ∈ stops) (region : other.extent = some extent)
    (behind : other.opening < stop.start)
    : extent.closing ≤ stop.start := by
  obtain ⟨_, _, here⟩ := course.stopsAt stop member
  obtain ⟨_, _, here'⟩ := course.stopsAt other member'
  have forward := here.start_lt_finish
  have marker := here'.occurrence.behind
  have finish : other.finish = extent.closing + 1 := by
    have answers := here'.answers
    rw [Answers, region] at answers
    exact answers.2.1
  rcases course.apart member member' with rfl | before | before
  · omega
  · omega
  · omega

/-- An occurrence has one outcome.
Witness: stops are disjoint, so a stop is no other stop and is enclosed in none.
-/
theorem Course.outcome_unique {offset target : Nat} {stops : List Stop}
    (course : pass.Course src offset target stops) {pos opening : Nat}
    (occurrence : pass.Occurrence src pos opening) {outcome other : Outcome}
    (h : outcome.Holds stops pos opening) (h' : other.Holds stops pos opening)
    : outcome = other := by
  have order := occurrence.behind
  have outside {stop : Stop} (member : stop ∈ stops) (start : stop.start = pos)
      (inside : Outcome.enclosed.Holds stops pos opening) : False := by
    obtain ⟨encloser, member', extent, region, behind, before⟩ := inside
    have := course.not_enclosed member member' region (by omega)
    omega
  cases outcome with
  | replaced =>
      obtain ⟨stop, member, start, replaced⟩ := h
      cases other with
      | replaced => rfl
      | kept =>
          obtain ⟨stop', member', start', kept⟩ := h'
          cases course.stop_unique member member' (start.trans start'.symm)
          rw [kept] at replaced
          cases replaced
      | enclosed => exact (outside member start h').elim
  | kept =>
      obtain ⟨stop, member, start, kept⟩ := h
      cases other with
      | replaced =>
          obtain ⟨stop', member', start', replaced⟩ := h'
          cases course.stop_unique member member' (start.trans start'.symm)
          rw [kept] at replaced
          cases replaced
      | kept => rfl
      | enclosed => exact (outside member start h').elim
  | enclosed =>
      cases other with
      | replaced =>
          obtain ⟨stop, member, start, _⟩ := h'
          exact (outside member start h).elim
      | kept =>
          obtain ⟨stop, member, start, _⟩ := h'
          exact (outside member start h).elim
      | enclosed => rfl

--------------------------------------------------------------------------------
-- Places in the result
--------------------------------------------------------------------------------

/-- Every stop shows its output at its target.
Witness: induction on the course; what is settled before a stop is as long as its target says.
-/
theorem Course.shown {offset target : Nat} {stops : List Stop}
    (course : pass.Course src offset target stops) (bound : offset ≤ src.length) (done : Bytes)
    (settled : done.length = target)
    : ∀ stop ∈ stops,
        stop.output src
          <+: (done ++ Patch.splice src offset (stops.map (Stop.patch src))).drop
            stop.target := by
  induction course generalizing done with
  | finished => simp
  | @stop offset target stop rest here further ih =>
      have behind := here.behind
      have forward := here.start_lt_finish
      have bounds := here.finish_bounds
      have front : (done ++ (src.take stop.start).drop offset).length = stop.target := by
        rw [here.placed, List.length_append, List.length_drop, List.length_take]
        omega
      have parts : done ++ Patch.splice src offset ((stop :: rest).map (Stop.patch src))
          = done ++ (src.take stop.start).drop offset
            ++ (stop.output src
              ++ Patch.splice src stop.finish (rest.map (Stop.patch src))) := by
        simp only [List.map_cons, Patch.splice, Stop.patch, List.append_assoc]
      intro shown member
      rw [parts]
      rcases List.mem_cons.mp member with rfl | later
      · rw [← front, List.drop_left]
        exact List.prefix_append _ _
      · rw [← List.append_assoc]
        exact ih bounds.2 _ (by rw [List.length_append, front]) shown later

/-- The output of a stop is not empty.
Witness: a replacement has a first byte, and kept source has at least a marker.
-/
theorem StopsAt.output_ne_nil (regular : pass.Regular) {offset target : Nat} {stop : Stop}
    (here : pass.StopsAt src offset target stop)
    : 0 < (stop.output src).length := by
  unfold Stop.output
  cases replacement : stop.reply.replacement with
  | none =>
      have forward := here.start_lt_finish
      have bounds := here.finish_bounds
      simp only [Option.getD_none, List.length_drop, List.length_take]
      omega
  | some text =>
      have answers := here.answers
      unfold Answers at answers
      split at answers
      · rw [answers.2.2] at replacement
        cases replacement
      · rw [answers.2.2] at replacement
        have fresh := regular.fresh _ _ replacement
        cases text with
        | nil => exact absurd fresh (by decide)
        | cons c text => simp

/-- Targets are not before the target of the course, and strictly increase. -/
theorem Course.targets_increase (regular : pass.Regular) {offset target : Nat} {stops : List Stop}
    (course : pass.Course src offset target stops)
    : (∀ stop ∈ stops, target ≤ stop.target)
      ∧ stops.Pairwise fun first second => first.target < second.target := by
  induction course with
  | finished => exact ⟨by simp, .nil⟩
  | @stop offset target stop rest here further ih =>
      have placed := here.placed
      have nonempty := here.output_ne_nil regular
      refine ⟨?_, .cons ?_ ih.2⟩
      · intro other member
        rcases List.mem_cons.mp member with rfl | later
        · omega
        · have := ih.1 other later
          omega
      · intro other later
        have := ih.1 other later
        omega

--------------------------------------------------------------------------------
-- Accounts
--------------------------------------------------------------------------------

/-- A stop of a built-in pass makes at most one remark, and exactly one where its call is kept. -/
theorem Answers.notes {stop : Stop} (builtIn : pass ∈ Rule.allPasses)
    (h : pass.Answers src stop)
    : stop.reply.notes.length ≤ 1
      ∧ (stop.reply.replacement = none → ∃ note, stop.reply.notes = [note]) := by
  have known := Rule.builtIn_of_mem builtIn
  unfold Answers at h
  split at h
  · rw [h.2.2]
    exact ⟨Nat.le_refl 1, fun _ => ⟨_, rfl⟩⟩
  · rename_i extent _
    rw [h.2.2]
    cases replacement : (pass.build ⟨pass.keyword, extent.inner⟩).replacement with
    | none =>
        obtain ⟨note, single⟩ := known.declined_notes replacement
        exact ⟨by simp [single], fun _ => ⟨note, single⟩⟩
    | some text => exact ⟨(known.replaced_notes replacement).1, nofun⟩

/-- A stop of a built-in pass that is replaced is remarked on where a select field falls back. -/
theorem Answers.replaced_notes {stop : Stop} {extent : Extent} (builtIn : pass ∈ Rule.allPasses)
    (h : pass.Answers src stop) (region : stop.extent = some extent)
    (replaced : stop.reply.replacement.isSome = true)
    : stop.reply.notes.length ≤ 1
      ∧ (stop.reply.notes ≠ []
        ↔ pass.keyword = Bytes.ofString "select"
          ∧ Builder.FallsBack ⟨pass.keyword, extent.inner⟩) := by
  rw [Answers, region] at h
  rw [h.2.2] at replaced ⊢
  obtain ⟨text, replacement⟩ := Option.isSome_iff_exists.mp replaced
  exact (Rule.builtIn_of_mem builtIn).replaced_notes replacement

/-- The records of a course come at increasing positions.
Witness: a stop has at most one record, and it stands where the stop does.
-/
theorem Course.positions_increase (builtIn : pass ∈ Rule.allPasses) {offset target : Nat}
    {stops : List Stop} (course : pass.Course src offset target stops) (file out : Bytes)
    : (stops.flatMap (Stop.records file out)).Pairwise fun first second =>
        first.pos < second.pos := by
  rw [List.pairwise_flatMap]
  constructor
  · intro stop member
    obtain ⟨_, _, here⟩ := course.stopsAt stop member
    have few := (here.answers.notes builtIn).1
    rw [Stop.records, List.pairwise_map]
    cases notes : stop.reply.notes with
    | nil => exact .nil
    | cons note rest =>
        obtain rfl : rest = [] := by simpa [notes] using few
        exact List.pairwise_singleton _ _
  · have targets := (course.targets_increase (Rule.regular_of_mem builtIn)).2
    refine targets.imp fun {first second} order record member record' member' => ?_
    obtain ⟨_, _, rfl⟩ := List.mem_map.mp member
    obtain ⟨_, _, rfl⟩ := List.mem_map.mp member'
    exact Int.ofNat_lt.mpr order

/-- A built-in pass accounts for every occurrence of its keyword in every source, and for every
record that it makes.
Witness: the stops of its course.
-/
theorem sweep_accounts {pass : Pass} (builtIn : pass ∈ Rule.allPasses) (file src : Bytes)
    : ∃ stops, pass.Accounts file src stops := by
  have regular := Rule.regular_of_mem builtIn
  obtain ⟨stops, course, text, records⟩ := sweep_course regular file src
  refine ⟨stops, {
    stopped := ?stopped
    ordered := course.ordered
    outcomes := ?outcomes
    shown := ?shown
    keptRemark := ?keptRemark
    replacedRemark := ?replacedRemark
    records := records
    increasing := ?increasing
  }⟩
  case stopped =>
    intro stop member
    obtain ⟨_, _, here⟩ := course.stopsAt stop member
    exact ⟨here.occurrence, here.answers⟩
  case outcomes =>
    intro pos opening occurrence
    obtain ⟨outcome, holds⟩ := course.outcome_exists regular occurrence (Nat.zero_le pos)
    exact ⟨outcome, holds, fun other holds' => course.outcome_unique occurrence holds' holds⟩
  case shown =>
    intro stop member
    rw [text]
    simpa using! course.shown (Nat.zero_le _) [] rfl stop member
  case keptRemark =>
    intro stop member
    obtain ⟨_, _, here⟩ := course.stopsAt stop member
    exact (here.answers.notes builtIn).2
  case replacedRemark =>
    intro stop member extent region replaced
    obtain ⟨_, _, here⟩ := course.stopsAt stop member
    exact here.answers.replaced_notes builtIn region replaced
  case increasing =>
    rw [records]
    exact course.positions_increase builtIn file (pass.sweep file src).text

/-- A select field that falls back, and one that is never closed around one that is written out:
two records, the second one at the place that its marker has in the result.
-/
theorem sweep_accounts_select
    : (⟨"select", Builder.select⟩ : Pass) ∈ Rule.allPasses
      ∧ (∃ stops,
          Pass.Accounts ⟨"select", Builder.select⟩ "view"
            "Form::select('a', [f()]) Form::select(Form::select('b')" stops)
      ∧ (Pass.sweep ⟨"select", Builder.select⟩ "view"
            "Form::select('a', [f()]) Form::select(Form::select('b')").records.map Record.pos
          = [0, 126] := by
  have builtIn : (⟨"select", Builder.select⟩ : Pass) ∈ Rule.allPasses := by
    simp [Rule.allPasses, Rule.builtIn, Rule.select]
  exact ⟨builtIn,
    sweep_accounts builtIn "view" "Form::select('a', [f()]) Form::select(Form::select('b')",
    by decide +kernel⟩

end Pass

end FormMigrate
