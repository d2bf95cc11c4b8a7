import FormMigrate.Proofs.Call.Course
import FormMigrate.Proofs.Rule.Nesting
import FormMigrate.Proofs.Scan.Enclosing

/-! Replacing a call keeps the balance of brackets and quotes: inside the replacement and around
it.
-/

namespace FormMigrate.Pass

variable {pass : Pass} {src : Bytes}

/-- From its marker up to its parenthesis a call has no quotes and no brackets. -/
theorem Occurrence.front_neutral
    (worded : pass.marker.all (fun c => c.isLetter || c == 0x3a) = true) {start opening : Nat}
    (h : pass.Occurrence src start opening)
    : Bytes.Neutral ((src.take opening).drop start) := by
  have plain : ∀ b : Byte,
      (b.isLetter || b == 0x3a || CallSite.isGap b) = true → b.isNeutral = true := by
    decide
  intro b member
  obtain ⟨i, inside, at_i⟩ := List.mem_iff_getElem.mp member
  rw [List.length_drop, List.length_take] at inside
  obtain ⟨b', same, shown⟩ := h.front_byte worded (Nat.le_add_right start i) (by omega)
  rw [List.getElem_drop, List.getElem_take] at at_i
  rw [List.getElem?_eq_some_iff] at same
  obtain ⟨_, same⟩ := same
  rw [← at_i, same]
  exact plain b' shown

/-- A call with well-nested arguments is well nested. -/
theorem Occurrence.call_nested
    (worded : pass.marker.all (fun c => c.isLetter || c == 0x3a) = true)
    {start opening closing : Nat} {inner : Bytes} (h : pass.Occurrence src start opening)
    (extracted : Extent.extract src opening = .ok ⟨inner, opening, closing⟩)
    (nested : WellNested inner)
    : WellNested ((src.take (closing + 1)).drop start) := by
  obtain ⟨region, -, closes⟩ := Extent.extract_eq_ok_iff.mp extracted
  obtain ⟨bound, opens⟩ := List.getElem?_eq_some_iff.mp h.parenthesis
  rw [List.drop_eq_getElem_cons bound, opens] at region
  obtain ⟨rest, tail⟩ := Extent.innerOf_parenthesis region
  simp only at closes tail
  have behind := h.behind
  have parentheses : (src.take (closing + 1)).drop opening = [0x28] ++ inner ++ [0x29] := by
    rw [List.drop_take, List.drop_eq_getElem_cons bound, opens, tail,
      show closing + 1 - opening = inner.length + 1 + 1 by omega, List.take_succ_cons,
      List.take_length_add_append]
    rfl
  rw [← Bytes.slice_append_slice src (by omega : start ≤ opening)
    (by omega : opening ≤ closing + 1), parentheses]
  exact (WellNested.of_neutral (h.front_neutral worded)).append (.insert rfl (by decide) nested)

/-- Where the arguments of a call are well nested, so is what a built-in pass puts in its place.
Every bracket that encloses the call is then still matched, and its match moves by the difference
of lengths.
Witness: the call itself is well nested, and the search for a match passes over either text.
-/
theorem replacement_balanced {pass : Pass} (builtIn : pass ∈ Rule.allPasses)
    {inner text : Bytes} (nested : WellNested inner)
    (replaced : (pass.build ⟨pass.keyword, inner⟩).replacement = some text)
    : WellNested text
      ∧ ∀ (src : Bytes) (start opening closing : Nat) (enclosing : Extent),
          pass.Occurrence src start opening
          → Extent.extract src opening = .ok ⟨inner, opening, closing⟩
          → Extent.Encloses src enclosing start
          → ∃ shifted,
              Extent.extract (src.take start ++ text ++ src.drop (closing + 1)) enclosing.opening
                = .ok shifted
              ∧ shifted.opening = enclosing.opening
              ∧ shifted.closing + (closing + 1 - start) = enclosing.closing + text.length := by
  have worded := (Rule.marker_of_mem pass builtIn).2
  have nested' := (Rule.builtIn_of_mem builtIn).nested nested replaced
  refine ⟨nested', ?_⟩
  intro src start opening closing enclosing occurrence extracted encloses
  have behind := occurrence.behind
  have bounds : opening < closing ∧ closing < src.length :=
    Extent.closing_lt_of_extract extracted
  exact encloses.replace (by omega) (by omega)
    (occurrence.call_nested worded extracted nested) nested'

/-- A call with a bracket in a string and a pair in its arguments, inside a pair of the
same family: that pair still matches around what replaces it.
-/
theorem replacement_balanced_brackets
    : WellNested "html()->text('(')->value(f([1]))"
      ∧ ∃ shifted,
          Extent.extract "[ html()->text('(')->value(f([1])) ]" 0 = .ok shifted
          ∧ shifted.opening = 0
          ∧ shifted.closing + 23 = 26 + 32 := by
  have builtIn : (⟨"text", Builder.textInput⟩ : Pass) ∈ Rule.allPasses := by
    simp [Rule.allPasses, Rule.builtIn, Rule.openClose, Rule.inputs, Rule.textKeywords]
  obtain ⟨nested, around⟩ := @replacement_balanced ⟨"text", Builder.textInput⟩ builtIn
    "'(', f([1])" "html()->text('(')->value(f([1]))" (by decide +kernel) (by decide +kernel)
  have occurrence : Occurrence ⟨"text", Builder.textInput⟩ "[ Form::text('(', f([1])) ]" 2 12 :=
    occurrence_iff.mpr (by decide +kernel)
  have encloses
      : Extent.Encloses "[ Form::text('(', f([1])) ]"
          ⟨" Form::text('(', f([1])) ", 0, 26⟩ 2 :=
    ⟨by decide +kernel, by decide, by decide, 0, Nat.le_refl 0, by decide, by decide +kernel⟩
  exact ⟨nested, around "[ Form::text('(', f([1])) ]" 2 12 24
    ⟨" Form::text('(', f([1])) ", 0, 26⟩ occurrence (by decide +kernel) encloses⟩

/-- The search for the match of a bracket starts as if the bracket stood outside strings. Around a
call that stands outside them, a bracket in a string takes the texts between strings for strings, so
that brackets in the arguments of the call count for its match.
-/
theorem not_balanced_quoted
    : ¬ ∀ (pass : Pass) (inner text src : Bytes) (start opening closing : Nat) (enclosing : Extent),
        pass ∈ Rule.allPasses
        → WellNested inner
        → (pass.build ⟨pass.keyword, inner⟩).replacement = some text
        → pass.Occurrence src start opening
        → Extent.extract src opening = .ok ⟨inner, opening, closing⟩
        → QuoteState.outside.after (src.take start) = .outside
        → Extent.extract src enclosing.opening = .ok enclosing
        → enclosing.opening < start
        → closing < enclosing.closing
        → ∃ shifted,
            Extent.extract (src.take start ++ text ++ src.drop (closing + 1)) enclosing.opening
              = .ok shifted
            ∧ shifted.closing + (closing + 1 - start) = enclosing.closing + text.length := by
  intro balanced
  have builtIn : (⟨"select", Builder.select⟩ : Pass) ∈ Rule.allPasses := by
    simp [Rule.allPasses, Rule.builtIn, Rule.select]
  have occurrence
      : Occurrence ⟨"select", Builder.select⟩ "'(' Form::select('a', ['(' => ')']) ')'" 4 16 :=
    occurrence_iff.mpr (by decide +kernel)
  obtain ⟨shifted, found, moved⟩ := balanced ⟨"select", Builder.select⟩ "'a', ['(' => ')']"
    "html()->select('a')->children([html()->option(')', '(')])"
    "'(' Form::select('a', ['(' => ')']) ')'" 4 16 34
    ⟨"' Form::select('a', ['(' => ')']) '", 1, 37⟩ builtIn (by decide +kernel) (by decide +kernel)
    occurrence (by decide +kernel) (by decide +kernel) (by decide +kernel) (by decide) (by decide)
  have elsewhere
      : Extent.extract
          ((Bytes.ofString "'(' Form::select('a', ['(' => ')']) ')'").take 4
            ++ Bytes.ofString "html()->select('a')->children([html()->option(')', '(')])"
            ++ (Bytes.ofString "'(' Form::select('a', ['(' => ')']) ')'").drop 35) 1
        = .ok ⟨"' html()->select('a')->children([html()->option('", 1, 51⟩ := by
    decide +kernel
  cases elsewhere.symm.trans found
  exact absurd moved (by decide +kernel)

end FormMigrate.Pass
