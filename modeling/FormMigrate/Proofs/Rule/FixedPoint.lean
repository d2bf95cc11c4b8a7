import FormMigrate.Proofs.Call.Substitution
import Mathlib.Logic.Function.Iterate

/-! Full runs one after another: when a further run has nothing to do. A pass that changes a text
moves it forward in an order, so no later pass can undo what an earlier one has done.
-/

namespace FormMigrate

/-- The first letter of the facade in either case. -/
def Byte.opensFacade (c : Byte) : Bool := c.lower == 0x66

/-- The first place where two texts differ may start a call in the first one, but not in the
second one.
-/
def Bytes.Before (first second : Bytes) : Prop :=
  ∃ pos,
    first.take pos = second.take pos
    ∧ first[pos]?.any Byte.opensFacade = true
    ∧ second[pos]?.any Byte.opensFacade = false

namespace Bytes.Before

theorem irrefl (text : Bytes) : ¬ Before text text := by
  rintro ⟨pos, -, opens, closed⟩
  rw [opens] at closed
  cases closed

theorem getElem?_of_take {first second : Bytes} {pos i : Nat}
    (same : first.take pos = second.take pos) (before : i < pos)
    : first[i]? = second[i]? := by
  rw [← List.getElem?_take_of_lt before, same, List.getElem?_take_of_lt before]

theorem take_of_take {first second : Bytes} {pos i : Nat}
    (same : first.take pos = second.take pos) (before : i ≤ pos)
    : first.take i = second.take i := by
  have shorter := congrArg (List.take i) same
  rwa [List.take_take, List.take_take, Nat.min_eq_left before] at shorter

/-- The order is transitive.
Witness: the earlier one of the two places where neighbours differ.
-/
theorem trans {first second third : Bytes} (h : Before first second) (h' : Before second third)
    : Before first third := by
  obtain ⟨p, same, opens, shut⟩ := h
  obtain ⟨q, same', opens', shut'⟩ := h'
  rcases Nat.lt_trichotomy p q with before | rfl | before
  · -- The second change comes later and leaves the first one's place alone.
    refine ⟨p, same.trans (take_of_take same' (Nat.le_of_lt before)), opens, ?_⟩
    rwa [← getElem?_of_take same' before]
  · rw [opens'] at shut
    cases shut
  · refine ⟨q, (take_of_take same (Nat.le_of_lt before)).trans same', ?_, shut'⟩
    rwa [getElem?_of_take same before]

end Bytes.Before

namespace Pass

/-- Every call that the pass comes to in a text is declined or never closed. -/
def Leaves (pass : Pass) (text : Bytes) : Prop :=
  ∃ stops, pass.Course text 0 0 stops ∧ ∀ stop ∈ stops, stop.reply.replacement = none

variable {pass : Pass} {src : Bytes}

/-- A text whose first patch puts something unlike a call in the place of a call moves forward. -/
theorem Replaces.before_splice (regular : pass.Regular) {patch : Patch} {rest : List Patch}
    (replaces : pass.Replaces src patch)
    : Bytes.Before src (Patch.splice src 0 (patch :: rest)) := by
  obtain ⟨opening, extent, occurrence, -, -, replaced⟩ := replaces
  have fresh := regular.fresh _ _ replaced
  obtain ⟨b, at_start, letter⟩ := occurrence.first_byte
  have inside := (List.getElem?_eq_some_iff.mp at_start).1
  have length : (src.take patch.start).length = patch.start := by
    rw [List.length_take]
    omega
  cases text : patch.text with
  | nil =>
      rw [text] at fresh
      exact absurd fresh (by decide)
  | cons c tail =>
      rw [text] at fresh
      have spliced : Patch.splice src 0 (patch :: rest)
          = src.take patch.start ++ (c :: (tail ++ Patch.splice src patch.finish rest)) := by
        simp only [Patch.splice, text, List.drop_zero, List.append_assoc, List.cons_append]
      rw [spliced]
      refine ⟨patch.start, ?_, ?_, ?_⟩
      · rw [List.take_left' length]
      · simp [at_start, Byte.opensFacade, letter]
      · rw [List.getElem?_append_right (Nat.le_of_eq length), length, Nat.sub_self]
        simpa [Fresh, Byte.opensFacade] using fresh

/-- A pass leaves a text as it is, or moves it forward and does not leave it alone. -/
theorem sweep_cases (regular : pass.Regular) (file src : Bytes)
    : (pass.Leaves src ∧ (pass.sweep file src).text = src)
      ∨ (¬ pass.Leaves src ∧ Bytes.Before src (pass.sweep file src).text) := by
  obtain ⟨stops, course, text, -⟩ := sweep_course regular file src
  rw [text, course.splice_replaced]
  cases patches : stops.filterMap Stop.replacement? with
  | nil =>
      refine .inl ⟨⟨stops, course, fun stop member => ?_⟩, rfl⟩
      simpa [Stop.replacement?] using List.filterMap_eq_nil_iff.mp patches stop member
  | cons patch rest =>
      obtain ⟨stop, member, replaced⟩ := List.mem_filterMap.mp
        (patches ▸ List.mem_cons_self : patch ∈ stops.filterMap Stop.replacement?)
      obtain ⟨_, _, here⟩ := course.stopsAt stop member
      refine .inr ⟨?_, (here.replaces replaced).before_splice regular⟩
      rintro ⟨others, other, kept⟩
      rw [Stop.replacement?, kept stop (other.unique course ▸ member)] at replaced
      cases replaced

end Pass

namespace Rule

/-- The text that a full run of the built-in rules makes of a text. -/
def full (file src : Bytes) : Bytes := (convertAll builtIn file src).text

theorem convert_text (rule : Rule) (file src : Bytes)
    : (rule.convert file src).text
      = rule.passes.foldl (fun text pass => (pass.sweep file text).text) src :=
  (@List.foldl_hom _ _ _ Converted.text _ _ _ ⟨src, []⟩ fun _ _ => rfl).symm

/-- A full run is one pass after another. -/
theorem full_eq_foldl (file src : Bytes)
    : full file src = allPasses.foldl (fun text pass => (pass.sweep file text).text) src := by
  rw [allPasses, List.foldl_flatMap]
  simp only [← convert_text]
  exact (@List.foldl_hom _ _ _ Converted.text _ _ _ ⟨src, []⟩ fun _ _ => rfl).symm

/-- Regular passes one after another leave a text as it is if each of them does, and else move it
forward.
-/
theorem foldl_sweep_cases (file : Bytes) {passes : List Pass}
    (regular : ∀ pass ∈ passes, pass.Regular) (src : Bytes)
    : ((∀ pass ∈ passes, pass.Leaves src)
        ∧ passes.foldl (fun text pass => (pass.sweep file text).text) src = src)
      ∨ ((¬ ∀ pass ∈ passes, pass.Leaves src)
        ∧ Bytes.Before src
            (passes.foldl (fun text pass => (pass.sweep file text).text) src)) := by
  induction passes generalizing src with
  | nil => exact .inl ⟨by simp, rfl⟩
  | cons pass rest ih =>
      simp only [List.foldl_cons, List.forall_mem_cons] at regular ⊢
      have later := ih regular.2 (pass.sweep file src).text
      rcases pass.sweep_cases regular.1 file src with ⟨leaves, same⟩ | ⟨replaces, forward⟩
      · rw [same] at later ⊢
        simpa only [leaves, true_and] using later
      · refine .inr ⟨fun all => replaces all.1, ?_⟩
        rcases later with ⟨_, same⟩ | ⟨_, further⟩
        · rwa [same]
        · exact forward.trans further

/-- A full run leaves a text as it is if every pass does, and else moves it forward. -/
theorem full_cases (file src : Bytes)
    : ((∀ pass ∈ allPasses, pass.Leaves src) ∧ full file src = src)
      ∨ ((¬ ∀ pass ∈ allPasses, pass.Leaves src) ∧ Bytes.Before src (full file src)) := by
  rw [full_eq_foldl]
  exact foldl_sweep_cases file (fun _ => regular_of_mem) src

/-- Further full runs come back to a text only if the first of them has left it as it was.
Witness: texts move forward in a transitive order without loops.
-/
theorem full_iterate_eq_iff (file text : Bytes) (n : Nat)
    : (full file)^[n + 1] text = text ↔ full file text = text := by
  have forward (k : Nat) (moved : Bytes.Before text (full file text))
      : Bytes.Before text ((full file)^[k + 1] text) := by
    induction k with
    | zero => exact moved
    | succ k ih =>
        rw [Function.iterate_succ_apply']
        rcases full_cases file ((full file)^[k + 1] text) with ⟨_, same⟩ | ⟨_, further⟩
        · rwa [same]
        · exact ih.trans further
  constructor
  · intro back
    rcases full_cases file text with ⟨_, same⟩ | ⟨_, moved⟩
    · exact same
    · have loop := forward n moved
      rw [back] at loop
      exact (Bytes.Before.irrefl text loop).elim
  · exact fun same => Function.iterate_fixed same (n + 1)

/-- A second full run returns the text of the first one exactly where the first one has left no
call that a pass comes to and would replace.
Witness: passes move texts forward, so that no later pass undoes an earlier one.
-/
theorem full_idempotent_iff (file src : Bytes)
    : (convertAll builtIn file (convertAll builtIn file src).text).text
        = (convertAll builtIn file src).text
      ↔ ∀ pass ∈ allPasses, pass.Leaves (convertAll builtIn file src).text := by
  rcases full_cases file (full file src) with ⟨leaves, same⟩ | ⟨replaces, moved⟩
  · exact ⟨fun _ => leaves, fun _ => same⟩
  · refine ⟨fun same => ?_, fun leaves => (replaces leaves).elim⟩
    rw [show full file (full file src) = full file src from same] at moved
    exact (Bytes.Before.irrefl _ moved).elim

/-- A call between the parentheses of a call of the same keyword waits for a second run. -/
theorem full_not_idempotent_nested
    : (convertAll builtIn "view" "Form::text(Form::text('a'))").text
        = "html()->text(Form::text('a'))"
      ∧ (convertAll builtIn "view"
            (convertAll builtIn "view" "Form::text(Form::text('a'))").text).text
          ≠ (convertAll builtIn "view" "Form::text(Form::text('a'))").text := by
  have first : (convertAll builtIn "view" "Form::text(Form::text('a'))").text
      = "html()->text(Form::text('a'))" := by
    decide +kernel
  rw [first]
  exact ⟨rfl, by decide +kernel⟩

end Rule

end FormMigrate
