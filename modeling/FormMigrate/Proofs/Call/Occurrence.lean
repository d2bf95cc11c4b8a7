import FormMigrate.Call.Pass
import FormMigrate.Proofs.Scan.Extent
import FormMigrate.Proofs.Text.Byte
import FormMigrate.Proofs.Text.Fold

/-! Occurrences of a keyword in a source text, described by offsets and without a scan. -/

namespace FormMigrate

namespace CallSite

/-- Few enough blanks stand before a parenthesis. -/
def Gap (limit n : Nat) (s : Bytes) : Prop :=
  n ≤ limit ∧ (∀ i < n, ∃ b, s[i]? = some b ∧ isGap b = true) ∧ s[n]? = some 0x28

theorem Gap.opens_iff {limit n : Nat} {rest : Bytes} : Gap limit n (0x28 :: rest) ↔ n = 0 := by
  have shut : isGap 0x28 = false := by decide
  constructor
  · rintro ⟨-, blank, -⟩
    cases n with
    | zero => rfl
    | succ n =>
        obtain ⟨b, same, gap⟩ := blank 0 (Nat.zero_lt_succ n)
        cases same
        simp [shut] at gap
  · rintro rfl
    exact ⟨Nat.zero_le limit, nofun, rfl⟩

/-- Any other byte in front is one of the blanks. -/
theorem Gap.cons_iff {limit n : Nat} {c : Byte} {rest : Bytes} (opens : c ≠ 0x28)
    : Gap limit n (c :: rest)
      ↔ isGap c = true ∧ ∃ few k, limit = few + 1 ∧ n = k + 1 ∧ Gap few k rest := by
  constructor
  · rintro ⟨few, blank, parenthesis⟩
    cases n with
    | zero => exact (opens (by simpa using parenthesis)).elim
    | succ k =>
        obtain ⟨b, same, gap⟩ := blank 0 (Nat.zero_lt_succ k)
        cases same
        refine ⟨gap, limit - 1, k, by omega, rfl, by omega, ?_, by simpa using parenthesis⟩
        intro i before
        simpa using blank (i + 1) (Nat.succ_lt_succ before)
  · rintro ⟨gap, few, k, rfl, rfl, bound, blank, parenthesis⟩
    refine ⟨Nat.succ_le_succ bound, ?_, by simpa using parenthesis⟩
    intro i before
    cases i with
    | zero => exact ⟨c, rfl, gap⟩
    | succ i => simpa using blank i (Nat.lt_of_succ_lt_succ before)

/-- A gap is found exactly where few enough blanks stand before a parenthesis.
Witness: both sides peel one byte of the text and one unit of the limit.
-/
theorem gap?_eq_some_iff {limit n : Nat} {s : Bytes} : gap? limit s = some n ↔ Gap limit n s := by
  induction s generalizing limit n with
  | nil => simp [gap?, Gap]
  | cons c rest ih =>
      by_cases opens : c = 0x28
      · subst opens
        rw [Gap.opens_iff]
        cases limit <;> simp [gap?, eq_comm]
      · rw [Gap.cons_iff opens]
        cases limit with
        | zero => simp [gap?, opens]
        | succ few =>
            simp only [gap?, beq_iff_eq, opens, ↓reduceIte]
            split
            · rename_i gap
              rw [Option.map_eq_some_iff]
              simp [ih, gap, @eq_comm _ n, and_comm]
            · rename_i noGap
              simp [noGap]

end CallSite

/-- The keyword of a pass is called at an offset, and its parenthesis stands at another one: the
marker up to the case of letters, no part of a longer name, then at most sixteen blanks.
-/
structure Pass.Occurrence (pass : Pass) (src : Bytes) (start opening : Nat) : Prop where
  marked : Bytes.lowerAscii pass.marker <+: Bytes.lowerAscii (src.drop start)
  free : 0 < start → ∀ b, src[start - 1]? = some b → b.isNamePart = false
  behind : start + pass.marker.length ≤ opening
  near : opening ≤ start + pass.marker.length + 16
  blank
    : ∀ i,
        start + pass.marker.length ≤ i
        → i < opening
        → ∃ b, src[i]? = some b ∧ CallSite.isGap b = true
  parenthesis : src[opening]? = some 0x28

namespace Pass

/-- A marker starts with the first letter of the facade. -/
theorem marker_eq (pass : Pass) : pass.marker = 0x46 :: (facade.drop 1 ++ pass.keyword) := by
  have : facade = 0x46 :: facade.drop 1 := by decide
  rw [marker, this, List.cons_append, List.drop_succ_cons, List.drop_zero]

theorem marker_length_pos (pass : Pass) : 0 < pass.marker.length := by
  simp [marker_eq]

/-- Occurrences are what the steps of a sweep look for. -/
theorem occurrence_iff {pass : Pass} {src : Bytes} {start opening : Nat}
    : pass.Occurrence src start opening
      ↔ Bytes.startsWithFold pass.marker (src.drop start) = true
        ∧ Sweep.followsName ⟨src, 0, []⟩ start = false
        ∧ CallSite.opening? src (start + pass.marker.length) = some opening := by
  have unnamed : Sweep.followsName ⟨src, 0, []⟩ start = false
      ↔ (0 < start → ∀ b, src[start - 1]? = some b → b.isNamePart = false) := by
    simp only [Sweep.followsName, Bool.and_eq_false_imp, decide_eq_true_eq]
    cases src[start - 1]? <;> simp
  have opens : CallSite.opening? src (start + pass.marker.length) = some opening
      ↔ start + pass.marker.length ≤ opening
        ∧ opening ≤ start + pass.marker.length + 16
        ∧ (∀ i,
            start + pass.marker.length ≤ i
            → i < opening
            → ∃ b, src[i]? = some b ∧ CallSite.isGap b = true)
        ∧ src[opening]? = some 0x28 := by
    simp only [CallSite.opening?, Option.map_eq_some_iff, CallSite.gap?_eq_some_iff, CallSite.Gap,
      List.getElem?_drop]
    constructor
    · rintro ⟨n, ⟨few, blank, parenthesis⟩, rfl⟩
      have few : n ≤ 16 := few
      refine ⟨by omega, by omega, ?_, parenthesis⟩
      intro i behind before
      have at_i := blank (i - (start + pass.marker.length)) (by omega)
      rwa [Nat.add_sub_cancel' behind] at at_i
    · rintro ⟨behind, near, blank, parenthesis⟩
      refine ⟨opening - (start + pass.marker.length), ⟨?_, ?_, ?_⟩, by omega⟩
      · have : CallSite.maxGap = 16 := rfl
        omega
      · intro i before
        exact blank _ (by omega) (by omega)
      · rwa [Nat.add_sub_cancel' behind]
  rw [Bytes.startsWithFold_iff, unnamed, opens]
  constructor
  · intro h
    exact ⟨h.marked, h.free, h.behind, h.near, h.blank, h.parenthesis⟩
  · rintro ⟨marked, free, behind, near, blank, parenthesis⟩
    exact ⟨marked, free, behind, near, blank, parenthesis⟩

namespace Occurrence

variable {pass : Pass} {src : Bytes} {start opening : Nat}

/-- One occurrence has one parenthesis. -/
theorem opening_unique {other : Nat} (h : pass.Occurrence src start opening)
    (h' : pass.Occurrence src start other)
    : opening = other := by
  have first := (occurrence_iff.mp h).2.2
  have second := (occurrence_iff.mp h').2.2
  rw [first] at second
  exact Option.some.inj second

/-- The first byte of an occurrence is a letter of the facade. -/
theorem first_byte (h : pass.Occurrence src start opening)
    : ∃ b, src[start]? = some b ∧ b.lower = 0x66 := by
  have marked := h.marked
  cases rest : src.drop start with
  | nil => simp [rest, marker_eq, Bytes.lowerAscii] at marked
  | cons b tail =>
      refine ⟨b, ?_, ?_⟩
      · rw [← List.head?_drop, rest, List.head?_cons]
      · rw [rest, marker_eq] at marked
        have same : (0x46 : Byte).lower = b.lower := by
          simp only [Bytes.lowerAscii, List.map_cons, List.cons_prefix_cons] at marked
          exact marked.1
        rw [← same]
        decide

/-- Up to its parenthesis an occurrence has only letters and colons, then blanks. -/
theorem front_byte (worded : pass.marker.all (fun c => c.isLetter || c == 0x3a) = true)
    (h : pass.Occurrence src start opening) {i : Nat} (behind : start ≤ i) (before : i < opening)
    : ∃ b, src[i]? = some b ∧ (b.isLetter || b == 0x3a || CallSite.isGap b) = true := by
  rcases Nat.lt_or_ge i (start + pass.marker.length) with inMarker | beyond
  · obtain ⟨tail, marked⟩ := h.marked
    have lowered : (Bytes.lowerAscii (src.drop start))[i - start]?
        = (Bytes.lowerAscii pass.marker)[i - start]? := by
      rw [← marked, List.getElem?_append_left (by rw [Bytes.length_lowerAscii]; omega)]
    have inside : i - start < pass.marker.length := by omega
    rw [Bytes.lowerAscii, Bytes.lowerAscii, List.getElem?_map, List.getElem?_map,
      List.getElem?_drop, Nat.add_sub_cancel' behind, List.getElem?_eq_getElem inside,
      Option.map_some, Option.map_eq_some_iff] at lowered
    obtain ⟨b, at_i, same⟩ := lowered
    have words : ∀ m : Byte,
        (m.isLetter || m == 0x3a) = true → (m.lower.isLetter || m.lower == 0x3a) = true := by
      decide
    have word : ∀ b : Byte,
        (b.lower.isLetter || b.lower == 0x3a) = true → (b.isLetter || b == 0x3a) = true := by
      decide
    have lower := words _ (List.all_eq_true.mp worded _ (List.getElem_mem inside))
    rw [← same] at lower
    exact ⟨b, at_i, by rw [word b lower, Bool.true_or]⟩
  · obtain ⟨b, at_i, gap⟩ := h.blank i beyond before
    exact ⟨b, at_i, by rw [gap, Bool.or_true]⟩

theorem opening_lt (h : pass.Occurrence src start opening) : opening < src.length :=
  (List.getElem?_eq_some_iff.mp h.parenthesis).1

/-- Where a later occurrence starts, the earlier one has already opened its parenthesis.
Witness: markers do not overlap, and neither blanks nor a parenthesis begin one.
-/
theorem opening_lt_of_lt (unbordered : Bytes.Unbordered (Bytes.lowerAscii pass.marker))
    {later other : Nat} (h : pass.Occurrence src start opening)
    (h' : pass.Occurrence src later other) (order : start < later)
    : opening < later := by
  obtain ⟨b, here, letter⟩ := h'.first_byte
  by_contra reached
  rcases Nat.lt_or_ge later (start + pass.marker.length) with overlap | beyond
  · refine unbordered.not_overlap (k := later - start) (by omega) ?_ h.marked ?_
    · rw [Bytes.length_lowerAscii]
      omega
    · rw [← Bytes.lowerAscii_drop, List.drop_drop, show start + (later - start) = later by omega]
      exact h'.marked
  · rcases Nat.lt_or_ge later opening with inGap | atOpening
    · obtain ⟨c, same, gap⟩ := h.blank later beyond inGap
      rw [here] at same
      cases same
      have letters : ∀ c : Byte, CallSite.isGap c = true → c.lower ≠ 0x66 := by
        intro c gap
        simp only [CallSite.isGap, Bool.or_eq_true, beq_iff_eq] at gap
        rcases gap with ((rfl | rfl) | rfl) | rfl <;> decide
      exact letters b gap letter
    · have same : later = opening := by omega
      subst later
      rw [h.parenthesis] at here
      cases here
      exact absurd letter (by decide)

end Occurrence

end Pass

end FormMigrate
