import FormMigrate.Scan.Bracket

/-! Enclosed regions: where they end, and that what follows them does not matter. -/

namespace FormMigrate.Extent

/-- The byte behind the enclosed text is the closing bracket. -/
theorem innerLength?_closer {opener closer : Byte} {q : QuoteState} {depth n : Nat} {s : Bytes}
    (h : innerLength? opener closer q depth s = some n)
    : s[n]? = some closer := by
  induction s generalizing q depth n with
  | nil => simp [innerLength?] at h
  | cons c rest ih =>
      have further {q' : QuoteState} {depth' : Nat}
          (mapped : (innerLength? opener closer q' depth' rest).map (· + 1) = some n)
          : (c :: rest)[n]? = some closer := by
        obtain ⟨k, found, rfl⟩ := Option.map_eq_some_iff.mp mapped
        simpa using ih found
      simp only [innerLength?] at h
      split at h
      · exact further h
      · split at h
        · exact further h
        · split at h
          · rename_i closes
            split at h
            · cases h
              simpa using closes
            · exact further h
          · exact further h

/-- The text between the parenthesis at the front of a text and its match, with both of them. -/
theorem innerOf_parenthesis {s inner : Bytes} (h : innerOf (0x28 :: s) = .ok inner)
    : ∃ rest, s = inner ++ 0x29 :: rest := by
  simp only [innerOf, closerOf?, beq_self_eq_true, ↓reduceIte] at h
  split at h
  · cases h
  · rename_i n found
    cases h
    refine ⟨s.drop (n + 1), ?_⟩
    have closes := innerLength?_closer found
    obtain ⟨bound, at_n⟩ := List.getElem?_eq_some_iff.mp closes
    rw [← at_n, List.getElem_cons_drop, List.take_append_drop]

/-- A parenthesis without a match is unbalanced, never a wrong opener. -/
theorem innerOf_parenthesis_error {s : Bytes} {e : BracketError}
    (h : innerOf (0x28 :: s) = .error e)
    : e = .unbalanced := by
  simp only [innerOf, closerOf?, beq_self_eq_true, ↓reduceIte] at h
  split at h
  · cases h
    rfl
  · cases h

/-- Extraction reads what follows the offset and nothing else. -/
theorem extract_natCast (src : Bytes) (opening : Nat)
    : extract src opening
      = (innerOf (src.drop opening)).map
          (fun inner => ⟨inner, opening, opening + 1 + inner.length⟩) := by
  cases inside : innerOf (src.drop opening) <;>
    simp [extract, inside, bind, Except.bind, Except.map, pure, Except.pure]

/-- The region at an offset has the enclosed text between its two brackets. -/
theorem extract_eq_ok_iff {src : Bytes} {opening : Nat} {extent : Extent}
    : extract src opening = .ok extent
      ↔ innerOf (src.drop opening) = .ok extent.inner
        ∧ extent.opening = opening
        ∧ extent.closing = opening + 1 + extent.inner.length := by
  obtain ⟨inner, start, closing⟩ := extent
  rw [extract_natCast]
  cases innerOf (src.drop opening) with
  | error e => simp [Except.map]
  | ok found =>
      simp only [Except.map, Except.ok.injEq, Extent.mk.injEq]
      constructor
      · rintro ⟨rfl, rfl, rfl⟩
        exact ⟨rfl, rfl, rfl⟩
      · rintro ⟨rfl, rfl, rfl⟩
        exact ⟨rfl, rfl, rfl⟩

theorem extract_eq_error_iff {src : Bytes} {opening : Nat} {e : BracketError}
    : extract src opening = .error e ↔ innerOf (src.drop opening) = .error e := by
  rw [extract_natCast]
  cases innerOf (src.drop opening) <;> simp [Except.map]

end FormMigrate.Extent
