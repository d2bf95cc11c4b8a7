import FormMigrate.Proofs.Rule.FixedPoint

/-! Where records point to. A record is made in a text that earlier replacements may have changed.
Texts only change by new text in the place of calls, so where the text up to a record is still that
of the file, the record points to its call in the file.
-/

namespace FormMigrate

--------------------------------------------------------------------------------
-- Statement
--------------------------------------------------------------------------------

/-- A record points to a marker in a text, up to the case of letters, and names its line. -/
structure Record.Locates (record : Record) (marker text : Bytes) : Prop where
  inside : 0 ≤ record.pos
  marked : Bytes.startsWithFold marker (text.drop record.pos.toNat) = true
  line : record.line = Bytes.lineAt text record.pos

/-- A text as a pass has it at one of its steps, when the passes before it are through. -/
def Rule.Stands (passes : List Pass) (file before : Bytes) (pass : Pass) (text : Bytes) : Prop :=
  ∃ earlier later state,
    passes = earlier ++ pass :: later
    ∧ Relation.ReflTransGen (pass.Steps file)
        ⟨(earlier.foldl (Converted.step file) ⟨before, []⟩).text, 0, []⟩ state
    ∧ state.text = text

--------------------------------------------------------------------------------
-- Texts that advance
--------------------------------------------------------------------------------

/-- A text that is another one or that first differs from it by new text in the place of a call. -/
inductive Bytes.Advances (first : Bytes) : Bytes → Prop
  | refl : Advances first first
  | moved {second} (pos : Nat) (same : first.take pos = second.take pos)
    (opens : first[pos]?.any Byte.opensFacade = true) (written : Written (second.drop pos))
    : Advances first second

/-- New text starts no call, neither with its first letter nor with its second one. -/
theorem Written.opens {text : Bytes} {pos : Nat} (written : Written (text.drop pos)) {i : Nat}
    (near : i < 2)
    : text[pos + i]?.any Byte.opensFacade = false := by
  rw [← List.getElem?_drop, ← List.getElem?_take_of_lt near]
  have letters
      : ∀ i < 2, (Bytes.ofString "ht")[i]?.any Byte.opensFacade = false
        ∧ (Bytes.ofString "cs")[i]?.any Byte.opensFacade = false := by
    decide
  rcases written with start | start
  · rw [start]
    exact (letters i near).1
  · rw [start]
    exact (letters i near).2

namespace Bytes.Advances

open Bytes.Before

variable {first second third : Bytes}

/-- Texts that advance keep advancing.
Witness: the earlier one of the two places where neighbours differ, whose two new letters a later
change leaves alone.
-/
theorem trans (h : Advances first second) (h' : Advances second third) : Advances first third := by
  cases h with
  | refl => exact h'
  | moved p same opens written =>
      cases h' with
      | refl => exact .moved p same opens written
      | moved q same' opens' written' =>
          rcases Nat.lt_or_ge q p with before | behind
          · refine .moved q ((take_of_take same (Nat.le_of_lt before)).trans same') ?_ written'
            rwa [getElem?_of_take same before]
          · have far : p + 2 ≤ q := by
              by_contra near
              have shut := written.opens (show q - p < 2 by omega)
              rw [Nat.add_sub_cancel' behind, opens'] at shut
              cases shut
            refine .moved p (same.trans (take_of_take same' behind)) opens ?_
            have kept : (third.drop p).take 2 = (second.drop p).take 2 := by
              rw [List.take_drop, List.take_drop, take_of_take same' far]
            rwa [Written, kept]

/-- Where a text has come back to what it was, it has not changed in between.
Witness: a place that changed has new text ever after, or an earlier place does.
-/
theorem between {n : Nat} (h : Advances first second) (h' : Advances second third)
    (back : first.take n = third.take n)
    : first.take n = second.take n := by
  cases h with
  | refl => rfl
  | moved p same opens written =>
      rcases Nat.lt_or_ge p n with inside | beyond
      · exfalso
        have shut := written.opens Nat.zero_lt_two
        rw [Nat.add_zero] at shut
        rw [getElem?_of_take back inside] at opens
        cases h' with
        | refl =>
            rw [opens] at shut
            cases shut
        | moved q same' opens' written' =>
            rcases Nat.lt_trichotomy p q with before | rfl | before
            · rw [getElem?_of_take same' before, opens] at shut
              cases shut
            · rw [opens'] at shut
              cases shut
            · have shut' := written'.opens Nat.zero_lt_two
              rw [Nat.add_zero, ← getElem?_of_take back (before.trans inside),
                getElem?_of_take same before, opens'] at shut'
              cases shut'
      · exact take_of_take same beyond

/-- A marker that stands behind the part that has not changed was there before.
Witness: new text inside the marker would share letters with it.
-/
theorem marked {marker : Bytes} {n : Nat} (h : Advances first second)
    (same : first.take n = second.take n)
    (apart
      : ∀ k < marker.length,
          ¬ ((lowerAscii marker).drop k).take 2 <+: Bytes.ofString "ht"
          ∧ ¬ ((lowerAscii marker).drop k).take 2 <+: Bytes.ofString "cs")
    (marks : startsWithFold marker (second.drop n) = true)
    : startsWithFold marker (first.drop n) = true := by
  cases h with
  | refl => exact marks
  | moved q same' opens written =>
      rw [startsWithFold_iff] at marks ⊢
      have behind : n ≤ q := by
        by_contra before
        have shut := written.opens Nat.zero_lt_two
        rw [Nat.add_zero, ← getElem?_of_take same (Nat.lt_of_not_le before), opens] at shut
        cases shut
      have far : n + marker.length ≤ q := by
        by_contra near
        have shared : (lowerAscii marker).drop (q - n) <+: lowerAscii (second.drop q) := by
          have cut := List.IsPrefix.drop marks (q - n)
          rwa [← lowerAscii_drop (second.drop n), List.drop_drop, Nat.add_sub_cancel' behind]
            at cut
        have front : ((lowerAscii marker).drop (q - n)).take 2
            <+: lowerAscii ((second.drop q).take 2) := by
          rw [show lowerAscii ((second.drop q).take 2) = (lowerAscii (second.drop q)).take 2 from
            List.map_take]
          exact shared.take 2
        rcases written with start | start
        · rw [start] at front
          exact (apart (q - n) (by omega)).1 front
        · rw [start] at front
          exact (apart (q - n) (by omega)).2 front
      have kept : (first.drop n).take marker.length = (second.drop n).take marker.length := by
        rw [List.take_drop, List.take_drop, take_of_take same' far]
      rw [List.prefix_iff_eq_take, length_lowerAscii] at marks ⊢
      rw [marks, lowerAscii, lowerAscii, ← List.map_take, ← List.map_take, kept]

end Bytes.Advances

/-- Nothing that is written starts inside the marker of a built-in pass. -/
theorem Rule.marker_apart
    : ∀ pass ∈ Rule.allPasses,
        ∀ k < pass.marker.length,
          ¬ ((Bytes.lowerAscii pass.marker).drop k).take 2 <+: Bytes.ofString "ht"
          ∧ ¬ ((Bytes.lowerAscii pass.marker).drop k).take 2 <+: Bytes.ofString "cs" := by
  decide

--------------------------------------------------------------------------------
-- Steps
--------------------------------------------------------------------------------

theorem Sweep.marked_of_find? {sweep : Sweep} {marker : Bytes} {pos : Nat}
    (found : sweep.find? marker = some pos)
    : Bytes.startsWithFold marker (sweep.text.drop pos) = true := by
  obtain ⟨k, index, rfl⟩ := Option.map_eq_some_iff.mp found
  rw [← List.drop_drop]
  exact (Bytes.indexFold?_spec index).1

namespace Pass

variable {pass : Pass} {file : Bytes}

/-- What a visit does to a sweep: it makes records at its place in the text as it stands, and it
leaves the text alone or puts a replacement there.
-/
theorem visit_cases (pass : Pass) (file : Bytes) (pos : Nat) (sweep : Sweep)
    : (∃ notes : List Note,
        (pass.visit file pos sweep).records
        = sweep.records
          ++ notes.map fun note =>
              Record.ofOffset file sweep.text pos note.snippet note.reason)
      ∧ ((pass.visit file pos sweep).text = sweep.text
        ∨ ∃ inner text last,
            (pass.build ⟨pass.keyword, inner⟩).replacement = some text
            ∧ (pass.visit file pos sweep).text
              = sweep.text.take pos ++ text ++ sweep.text.drop last) := by
  simp only [visit]
  split
  · exact ⟨⟨[], (List.append_nil _).symm⟩, .inl rfl⟩
  · split
    · exact ⟨⟨[], (List.append_nil _).symm⟩, .inl rfl⟩
    · rename_i opening _
      split
      · exact ⟨⟨[_], rfl⟩, .inl rfl⟩
      · rename_i extent _
        simp only [answer, foldl_remark]
        split
        · exact ⟨⟨_, rfl⟩, .inl rfl⟩
        · rename_i text replaced
          exact ⟨⟨_, rfl⟩, .inr ⟨extent.inner, text, extent.closing + 1, replaced, rfl⟩⟩

/-- A step advances the text. -/
theorem Steps.advances (builtIn : pass ∈ Rule.allPasses) {before after : Sweep}
    (next : pass.Steps file before after)
    : Bytes.Advances before.text after.text := by
  obtain ⟨pos, found, rfl⟩ := Option.map_eq_some_iff.mp next
  rcases (pass.visit_cases file pos before).2 with same | ⟨inner, text, last, replaced, written⟩
  · rw [same]
    exact .refl
  · have marked := Sweep.marked_of_find? found
    have inside := Bytes.startsWithFold_length_le marked
    have length : (before.text.take pos).length = pos := by
      have := pass.marker_length_pos
      rw [List.length_drop] at inside
      rw [List.length_take]
      omega
    rw [written]
    refine .moved pos ?_ ?_ ?_
    · rw [List.append_assoc, List.take_left' length]
    · rw [← List.head?_drop]
      rw [Bytes.startsWithFold_iff, marker_eq] at marked
      cases rest : before.text.drop pos with
      | nil => simp [rest, Bytes.lowerAscii] at marked
      | cons b tail =>
          simp only [rest, Bytes.lowerAscii, List.map_cons, List.cons_prefix_cons] at marked
          simp only [List.head?_cons, Option.any_some, Byte.opensFacade, ← marked.1]
          decide
    · rw [List.append_assoc, List.drop_left' length]
      exact ((Rule.builtIn_of_mem builtIn).edges replaced).1.append _

theorem reached_advances (builtIn : pass ∈ Rule.allPasses) {before after : Sweep}
    (reached : Relation.ReflTransGen (pass.Steps file) before after)
    : Bytes.Advances before.text after.text := by
  induction reached with
  | refl => exact .refl
  | tail _ next ih => exact ih.trans (next.advances builtIn)

/-- A record that a sweep makes on its way points to its call in the text as it stood then. -/
theorem reached_records {before after : Sweep}
    (reached : Relation.ReflTransGen (pass.Steps file) before after) {record : Record}
    (made : record ∈ after.records)
    : record ∈ before.records
      ∨ ∃ state,
          Relation.ReflTransGen (pass.Steps file) before state
          ∧ Relation.ReflTransGen (pass.Steps file) state after
          ∧ record.file = file
          ∧ record.Locates pass.marker state.text := by
  induction reached with
  | refl => exact .inl made
  | @tail middle after reached next ih =>
      obtain ⟨pos, found, rfl⟩ := Option.map_eq_some_iff.mp next
      obtain ⟨notes, records⟩ := (pass.visit_cases file pos middle).1
      rw [records, List.mem_append, List.mem_map] at made
      rcases made with earlier | ⟨note, -, rfl⟩
      · refine (ih earlier).imp_right ?_
        rintro ⟨state, came, went, here⟩
        exact ⟨state, came, went.tail next, here⟩
      · exact .inr ⟨middle, reached, .single next, rfl, Int.natCast_nonneg pos,
          Sweep.marked_of_find? found, rfl⟩

theorem sweep_advances (builtIn : pass ∈ Rule.allPasses) (file src : Bytes)
    : Bytes.Advances src (pass.sweep file src).text :=
  reached_advances builtIn (pass.run_reached file ⟨src, 0, []⟩).1

end Pass

--------------------------------------------------------------------------------
-- Passes
--------------------------------------------------------------------------------

namespace Rule

variable {file before : Bytes}

/-- What was converted before only stands in front. -/
theorem foldl_step (file : Bytes) (passes : List Pass) (state : Converted)
    : passes.foldl (Converted.step file) state
      = ⟨(passes.foldl (Converted.step file) ⟨state.text, []⟩).text,
          state.records ++ (passes.foldl (Converted.step file) ⟨state.text, []⟩).records⟩ := by
  induction passes generalizing state with
  | nil => simp
  | cons pass rest ih =>
      rw [List.foldl_cons, List.foldl_cons, ih, ih (Converted.step file ⟨state.text, []⟩ pass)]
      simp [Converted.step]

/-- Rules one after another are their passes one after another. -/
theorem convertAll_eq_foldl (rules : List Rule) (file src : Bytes)
    : convertAll rules file src
      = (rules.flatMap passes).foldl (Converted.step file) ⟨src, []⟩ := by
  rw [convertAll, List.foldl_flatMap]
  congr 1
  funext state rule
  exact (foldl_step file rule.passes state).symm

theorem foldl_step_advances {passes : List Pass} (builtIn : ∀ pass ∈ passes, pass ∈ allPasses)
    (file : Bytes) (state : Converted)
    : Bytes.Advances state.text (passes.foldl (Converted.step file) state).text := by
  induction passes generalizing state with
  | nil => exact .refl
  | cons pass rest ih =>
      rw [List.forall_mem_cons] at builtIn
      exact (Pass.sweep_advances builtIn.1 file state.text).trans
        (ih builtIn.2 (Converted.step file state pass))

/-- A text that a pass stands at has advanced from the first one, and it advances to the last. -/
theorem Stands.advances {passes : List Pass} (builtIn : ∀ pass ∈ passes, pass ∈ allPasses)
    {pass : Pass} {text : Bytes} (stands : Stands passes file before pass text)
    : Bytes.Advances before text
      ∧ Bytes.Advances text (passes.foldl (Converted.step file) ⟨before, []⟩).text := by
  obtain ⟨earlier, later, state, rfl, reached, rfl⟩ := stands
  rw [List.forall_mem_append, List.forall_mem_cons] at builtIn
  obtain ⟨builtIn, builtIn', builtIn''⟩ := builtIn
  refine ⟨(foldl_step_advances builtIn file _).trans (Pass.reached_advances builtIn' reached), ?_⟩
  have onward := Pass.reached_advances builtIn' (pass.run_reached file state).1
  rw [Pass.run_eq_of_reached reached] at onward
  rw [List.foldl_append, List.foldl_cons]
  exact onward.trans (foldl_step_advances builtIn'' file (Converted.step file _ pass))

/-- Every record names its file and points to its call in a text that a pass stood at. -/
theorem foldl_step_records {passes : List Pass} {record : Record}
    (made : record ∈ (passes.foldl (Converted.step file) ⟨before, []⟩).records)
    : record.file = file
      ∧ ∃ pass text, Stands passes file before pass text ∧ record.Locates pass.marker text := by
  induction passes generalizing before with
  | nil => cases made
  | cons pass rest ih =>
      rw [List.foldl_cons, foldl_step, List.mem_append] at made
      rcases made with first | behind
      · obtain none | ⟨state, reached, -, named, here⟩ :=
          Pass.reached_records (pass.run_reached file ⟨before, 0, []⟩).1 first
        · cases none
        · exact ⟨named, pass, state.text, ⟨[], rest, state, rfl, reached, rfl⟩, here⟩
      · obtain ⟨named, pass', text, ⟨earlier, later, state, rfl, reached, same⟩, here⟩ := ih behind
        refine ⟨named, pass', text, ⟨pass :: earlier, later, state, rfl, ?_, same⟩, here⟩
        rw [List.foldl_cons, foldl_step]
        exact reached

/-- A record points to its call in the text as a pass had it and, if all changes are behind the
record, in the text that the rules were given.
-/
theorem convertAll_locates {rules : List Rule} (builtIn : ∀ rule ∈ rules, rule ∈ Rule.builtIn)
    {record : Record} (made : record ∈ (convertAll rules file before).records)
    : ∃ pass text,
        Stands (rules.flatMap passes) file before pass text
        ∧ record.Locates pass.marker text
        ∧ (before.take record.pos.toNat
            = (convertAll rules file before).text.take record.pos.toNat
          → record.Locates pass.marker before) := by
  have known : ∀ pass ∈ rules.flatMap passes, pass ∈ allPasses := by
    intro pass member
    obtain ⟨rule, listed, own⟩ := List.mem_flatMap.mp member
    exact List.mem_flatMap.mpr ⟨rule, builtIn rule listed, own⟩
  rw [convertAll_eq_foldl] at made ⊢
  obtain ⟨-, pass, text, stands, here⟩ := foldl_step_records made
  refine ⟨pass, text, stands, here, fun same => ?_⟩
  obtain ⟨came, goes⟩ := stands.advances known
  have front := came.between goes same
  obtain ⟨earlier, later, -, listed, -⟩ := stands
  have member : pass ∈ allPasses := known pass (listed ▸ List.mem_append_right _ (.head _))
  refine ⟨here.inside, came.marked front (marker_apart pass member) here.marked, ?_⟩
  rw [here.line, Bytes.lineAt, Bytes.lineAt, front]

end Rule

end FormMigrate
