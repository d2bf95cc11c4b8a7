import FormMigrate.Text.Bytes
import Mathlib.Data.List.Infix

/-! Matching up to the case of ASCII letters, and words whose occurrences never overlap. -/

namespace FormMigrate.Bytes

/-- A text that starts with another one up to case starts with it in lower case. -/
theorem startsWithFold_iff {opening s : Bytes}
    : startsWithFold opening s = true ↔ lowerAscii opening <+: lowerAscii s := by
  induction opening generalizing s with
  | nil => simp [startsWithFold, lowerAscii]
  | cons a opening ih =>
      cases s with
      | nil => simp [startsWithFold, lowerAscii]
      | cons b s =>
          simp only [startsWithFold, Bool.and_eq_true, beq_iff_eq, ih, lowerAscii, List.map_cons,
            List.cons_prefix_cons]

theorem lowerAscii_drop (s : Bytes) (n : Nat)
    : lowerAscii (s.drop n) = (lowerAscii s).drop n :=
  List.map_drop

theorem lowerAscii_append (s t : Bytes) : lowerAscii (s ++ t) = lowerAscii s ++ lowerAscii t :=
  List.map_append

@[simp] theorem length_lowerAscii (s : Bytes) : (lowerAscii s).length = s.length :=
  List.length_map _

/-- A search that fails leaves no occurrence at any offset. -/
theorem not_startsWithFold_of_indexFold?_eq_none {needle s : Bytes}
    (h : indexFold? needle s = none) (pos : Nat)
    : startsWithFold needle (s.drop pos) = false := by
  induction s generalizing pos with
  | nil =>
      simp only [indexFold?, ite_eq_right_iff, reduceCtorEq, imp_false] at h
      cases needle with
      | nil => simp at h
      | cons a needle => simp [startsWithFold]
  | cons c rest ih =>
      simp only [indexFold?] at h
      split at h
      · cases h
      · rename_i absent
        cases pos with
        | zero => simpa using absent
        | succ pos => simpa using ih (by simpa using h) pos

/-- A search that succeeds finds an occurrence, and none stands before it. -/
theorem indexFold?_spec {needle s : Bytes} {pos : Nat} (h : indexFold? needle s = some pos)
    : startsWithFold needle (s.drop pos) = true
      ∧ ∀ k < pos, startsWithFold needle (s.drop k) = false := by
  induction s generalizing pos with
  | nil =>
      simp only [indexFold?, Option.ite_none_right_eq_some, Option.some.injEq,
        List.isEmpty_iff] at h
      obtain ⟨rfl, rfl⟩ := h
      simp [startsWithFold]
  | cons c rest ih =>
      simp only [indexFold?] at h
      split at h
      · rename_i starts
        cases h
        exact ⟨by simpa using starts, by simp⟩
      · rename_i absent
        obtain ⟨pos, found, rfl⟩ := Option.map_eq_some_iff.mp h
        obtain ⟨starts, first⟩ := ih found
        refine ⟨by simpa using starts, ?_⟩
        intro k before
        cases k with
        | zero => simpa using absent
        | succ k => simpa using first k (by omega)

/-- No proper part at the end of the word is also a part at its front. -/
def Unbordered (word : Bytes) : Prop :=
  ∀ k < word.length, 0 < k → ¬ word.drop k <+: word

instance (word : Bytes) : Decidable (Unbordered word) :=
  inferInstanceAs (Decidable (∀ k < word.length, 0 < k → ¬ word.drop k <+: word))

/-- An unbordered word does not occur inside one of its own occurrences.
Witness: what two overlapping occurrences share is a border of the word.
-/
theorem Unbordered.not_overlap {word s : Bytes} (unbordered : Unbordered word) {k : Nat}
    (positive : 0 < k) (inside : k < word.length) (here : word <+: s)
    : ¬ word <+: s.drop k := by
  intro there
  have shared : word.drop k <+: s.drop k := List.IsPrefix.drop here k
  exact unbordered k inside positive (List.prefix_of_prefix_length_le shared there (by simp))

end FormMigrate.Bytes
