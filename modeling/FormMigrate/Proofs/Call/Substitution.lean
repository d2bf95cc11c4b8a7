import FormMigrate.Proofs.Rule.Replies
import Mathlib.Logic.Relation

/-! A keyword pass only substitutes whole calls: its in-place edits amount to one substitution in
the source text, and nothing that it has written is scanned again.
-/

namespace FormMigrate

/-- A stop as a patch of the source, if its call is replaced. -/
def Stop.replacement? (stop : Stop) : Option Patch :=
  stop.reply.replacement.map fun text => ⟨stop.start, stop.finish, text⟩

namespace Pass

/-- One step of a sweep, as a relation. -/
def Steps (pass : Pass) (file : Bytes) (before after : Sweep) : Prop :=
  pass.step file before = some after

/-- A patch that replaces a whole call of the source by what the builder makes of its arguments:
it starts with the marker of an occurrence and ends with the parenthesis that closes the call.
-/
def Replaces (pass : Pass) (src : Bytes) (patch : Patch) : Prop :=
  ∃ opening extent,
    pass.Occurrence src patch.start opening
    ∧ Extent.extract src opening = .ok extent
    ∧ patch.finish = extent.closing + 1
    ∧ (pass.build ⟨pass.keyword, extent.inner⟩).replacement = some patch.text

/-- A pass over a source comes to an end, and its result is the source with disjoint whole calls
replaced. At any moment the text still to be scanned is the end of the source, and the text before
it, replacements included, is the start of the result.
-/
structure Substitutes (pass : Pass) (file src : Bytes) (patches : List Patch) : Prop where
  calls : ∀ patch ∈ patches, pass.Replaces src patch
  disjoint : patches.Pairwise fun first second => first.finish ≤ second.start
  result : (pass.sweep file src).text = Patch.splice src 0 patches
  reached : Relation.ReflTransGen (pass.Steps file) ⟨src, 0, []⟩ (pass.sweep file src)
  ended : pass.step file (pass.sweep file src) = none
  unread
    : ∀ state,
        Relation.ReflTransGen (pass.Steps file) ⟨src, 0, []⟩ state
        → state.text.drop state.next <:+ src
  settled
    : ∀ state,
        Relation.ReflTransGen (pass.Steps file) ⟨src, 0, []⟩ state
        → state.text.take state.next <+: (pass.sweep file src).text

/-- A run is made of steps, and none is possible after it. -/
theorem run_reached (pass : Pass) (file : Bytes) (sweep : Sweep)
    : Relation.ReflTransGen (pass.Steps file) sweep (pass.run file sweep)
      ∧ pass.step file (pass.run file sweep) = none := by
  fun_induction Pass.run pass file sweep with
  | case1 sweep last => exact ⟨.refl, last⟩
  | case2 sweep further next _ ih => exact ⟨.head next ih.1, ih.2⟩

theorem run_of_step {pass : Pass} {file : Bytes} {sweep further : Sweep}
    (next : pass.step file sweep = some further)
    : pass.run file sweep = pass.run file further := by
  rw [Pass.run]
  split
  · rename_i last
    rw [next] at last
    cases last
  · rename_i other taken
    rw [next] at taken
    cases taken
    rfl

/-- A run from a state that is reached ends where the run from the start does. -/
theorem run_eq_of_reached {pass : Pass} {file : Bytes} {start state : Sweep}
    (h : Relation.ReflTransGen (pass.Steps file) start state)
    : pass.run file state = pass.run file start := by
  induction h with
  | refl => rfl
  | tail _ next ih => rw [← run_of_step next, ih]

/-- Every state that a sweep reaches stands at an offset of the source.
Witness: a step passes over source bytes or moves behind a stop of the source.
-/
theorem at_of_reached {pass : Pass} (regular : pass.Regular) {file src : Bytes} {state : Sweep}
    (h : Relation.ReflTransGen (pass.Steps file) ⟨src, 0, []⟩ state)
    : ∃ offset done, state.At src offset done := by
  induction h with
  | refl => exact ⟨0, [], Sweep.At.start src⟩
  | tail _ next ih =>
      obtain ⟨offset, done, here⟩ := ih
      rcases step_at regular here next with ⟨n, _, there, _⟩ | ⟨stop, _, there, _⟩
      · exact ⟨_, _, there⟩
      · exact ⟨_, _, there⟩

theorem StopsAt.replaces {pass : Pass} {src : Bytes} {offset target : Nat} {stop : Stop}
    {patch : Patch} (here : pass.StopsAt src offset target stop)
    (replaced : stop.replacement? = some patch)
    : pass.Replaces src patch := by
  obtain ⟨text, reply, rfl⟩ := Option.map_eq_some_iff.mp replaced
  have answers := here.answers
  unfold Answers at answers
  split at answers
  · rw [answers.2.2] at reply
    cases reply
  · rename_i extent _
    rw [answers.2.2] at reply
    exact ⟨stop.opening, extent, here.occurrence, answers.1, answers.2.1, reply⟩

/-- Stops whose calls are left alone do not count as patches.
Witness: the output of such a stop is its own source, which joins the bytes before it.
-/
theorem Course.splice_replaced {pass : Pass} {src : Bytes} {offset target : Nat}
    {stops : List Stop} (course : pass.Course src offset target stops)
    : Patch.splice src offset (stops.map (Stop.patch src))
      = Patch.splice src offset (stops.filterMap Stop.replacement?) := by
  induction course with
  | finished => rfl
  | @stop offset target stop rest here further ih =>
      rw [List.map_cons, Patch.splice, Stop.patch]
      cases replacement : stop.reply.replacement with
      | some text =>
          rw [List.filterMap_cons_some (b := ⟨stop.start, stop.finish, text⟩)
            (by rw [Stop.replacement?, replacement, Option.map_some]), Patch.splice, ih]
          simp only [Stop.output, replacement, Option.getD_some]
      | none =>
          have behind := here.behind
          have forward := here.start_lt_finish
          have later
              : ∀ patch ∈ (rest.filterMap Stop.replacement?).head?,
                  stop.finish ≤ patch.start := by
            intro patch first
            obtain ⟨other, member, replaced⟩ :=
              List.mem_filterMap.mp (List.mem_of_mem_head? first)
            obtain ⟨_, _, rfl⟩ := Option.map_eq_some_iff.mp replaced
            exact further.behind other member
          rw [List.filterMap_cons_none (by rw [Stop.replacement?, replacement, Option.map_none]),
            Patch.splice_widen (Nat.le_of_lt (Nat.lt_of_le_of_lt behind forward)) later, ih,
            ← Bytes.slice_append_slice src behind (Nat.le_of_lt forward)]
          simp only [Stop.output, replacement, Option.getD_none]

/-- A built-in pass comes to an end on every source and only substitutes whole calls of it.
Witness: the replaced stops of its course.
-/
theorem sweep_substitutes {pass : Pass} (builtIn : pass ∈ Rule.allPasses) (file src : Bytes)
    : ∃ patches, pass.Substitutes file src patches := by
  have regular := Rule.regular_of_mem builtIn
  obtain ⟨stops, course, text, _⟩ := sweep_course regular file src
  refine ⟨stops.filterMap Stop.replacement?, {
    calls := ?_
    disjoint := ?_
    result := by rw [text, course.splice_replaced]
    reached := (run_reached pass file _).1
    ended := (run_reached pass file _).2
    unread := ?_
    settled := ?_
  }⟩
  · intro patch member
    obtain ⟨stop, stopped, replaced⟩ := List.mem_filterMap.mp member
    obtain ⟨_, _, here⟩ := course.stopsAt stop stopped
    exact here.replaces replaced
  · refine List.pairwise_filterMap.mpr (course.ordered.imp ?_)
    intro first second order patch replaced patch' replaced'
    obtain ⟨_, _, rfl⟩ := Option.map_eq_some_iff.mp replaced
    obtain ⟨_, _, rfl⟩ := Option.map_eq_some_iff.mp replaced'
    exact order
  · intro state reached
    obtain ⟨offset, done, here⟩ := at_of_reached regular reached
    have rest := here.drop_text 0
    rw [Nat.add_zero, Nat.add_zero] at rest
    rw [rest]
    exact List.drop_suffix offset src
  · intro state reached
    obtain ⟨offset, done, here⟩ := at_of_reached regular reached
    obtain ⟨_, _, written, _⟩ := run_at regular file here
    have front := here.take_text 0
    rw [Nat.add_zero, List.take_zero, List.append_nil] at front
    rw [front, sweep, ← run_eq_of_reached reached, written]
    exact List.prefix_append _ _

/-- A call inside the arguments of a call: the outer one is replaced by a longer text, and the
inner one in it stays as it is.
-/
theorem sweep_substitutes_nested
    : (⟨"text", Builder.textInput⟩ : Pass) ∈ Rule.allPasses
      ∧ (∃ patches,
          Pass.Substitutes ⟨"text", Builder.textInput⟩ "view"
            "Form::text(Form::text('a'), b);" patches)
      ∧ (Pass.sweep ⟨"text", Builder.textInput⟩ "view" "Form::text(Form::text('a'), b);").text
          = "html()->text(Form::text('a'))->value(b);" := by
  have builtIn : (⟨"text", Builder.textInput⟩ : Pass) ∈ Rule.allPasses := by
    simp [Rule.allPasses, Rule.builtIn, Rule.openClose, Rule.inputs, Rule.textKeywords]
  exact ⟨builtIn, sweep_substitutes builtIn "view" "Form::text(Form::text('a'), b);",
    by decide +kernel⟩

end Pass

end FormMigrate
