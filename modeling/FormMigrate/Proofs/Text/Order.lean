import FormMigrate.Text.Bytes

/-! The byte order of texts is that of lists by their first difference, and texts that are told
apart increase strictly once they are sorted.
-/

namespace FormMigrate.Bytes

theorem le_iff {s t : Bytes} : le s t = true ↔ s < t ∨ s = t := by
  fun_induction le s t with
  | case1 t => cases t <;> simp
  | case2 => simp
  | case3 a s b t ih =>
      rw [Bool.or_eq_true, Bool.and_eq_true, ih, decide_eq_true_eq, beq_iff_eq,
        List.cons_lt_cons_iff, List.cons.injEq, and_or_left, or_assoc]

theorem le_trans {s t u : Bytes} (first : le s t = true) (second : le t u = true)
    : le s u = true := by
  rw [le_iff] at *
  rcases first with first | rfl
  · rcases second with second | rfl
    · exact .inl (List.lt_trans first second)
    · exact .inl first
  · exact second

theorem le_total (s t : Bytes) : le s t = true ∨ le t s = true := by
  induction s generalizing t with
  | nil => exact .inl rfl
  | cons a s ih =>
      cases t with
      | nil => exact .inr rfl
      | cons b t =>
          simp only [le, Bool.or_eq_true, Bool.and_eq_true, decide_eq_true_eq, beq_iff_eq]
          rcases Nat.lt_trichotomy a.toNat b.toNat with less | same | more
          · exact .inl (.inl less)
          · obtain rfl := UInt8.toNat_inj.mp same
            exact (ih t).imp (fun h => .inr ⟨rfl, h⟩) fun h => .inr ⟨rfl, h⟩
          · exact .inr (.inl more)

theorem sort_perm (texts : List Bytes) : (sort texts).Perm texts := List.mergeSort_perm texts le

/-- Sorted texts increase strictly where none of them is repeated. -/
theorem sort_increasing {texts : List Bytes} (distinct : texts.Nodup)
    : (sort texts).Pairwise (· < ·) := by
  have total (s t : Bytes) : (le s t || le t s) = true := Bool.or_eq_true_iff.mpr (le_total s t)
  have sorted : (sort texts).Pairwise fun s t => le s t = true :=
    @List.pairwise_mergeSort Bytes le (fun _ _ _ => le_trans) total texts
  have apart : (sort texts).Pairwise (· ≠ ·) := (sort_perm texts).nodup_iff.mpr distinct
  exact sorted.imp₂ (fun s t before other => (le_iff.mp before).resolve_right other) apart

end FormMigrate.Bytes
