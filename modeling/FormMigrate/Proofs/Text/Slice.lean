import FormMigrate.Text.Bytes

/-! The bytes of a text between two offsets. -/

namespace FormMigrate.Bytes

/-- The bytes up to an offset and those from it on. -/
theorem slice_append_drop (s : Bytes) {first last : Nat} (order : first ≤ last)
    : (s.take last).drop first ++ s.drop last = s.drop first := by
  have rest : s.drop last = (s.drop first).drop (last - first) := by
    rw [List.drop_drop, Nat.add_sub_cancel' order]
  rw [List.drop_take, rest, List.take_append_drop]

/-- The bytes up to an offset and those from it up to a further one. -/
theorem slice_append_slice (s : Bytes) {first second third : Nat} (order : first ≤ second)
    (order' : second ≤ third)
    : (s.take second).drop first ++ (s.take third).drop second = (s.take third).drop first := by
  have parts := slice_append_drop (s.take third) order
  rwa [List.take_take, Nat.min_eq_left order'] at parts

end FormMigrate.Bytes
