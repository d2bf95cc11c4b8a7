import FormMigrate.Proofs.Text.Lines
import FormMigrate.Report.Diff
import Mathlib.Data.List.Range

/-! What a sample diff shows of two texts: the lines of consecutive numbers around the first one
that differs, and that one itself unless the window ends before it.
-/

namespace FormMigrate.Diff

open Bytes (LinesOf)

--------------------------------------------------------------------------------
-- Statement
--------------------------------------------------------------------------------

/-- The line of a number, from zero. Behind its last line a text goes on with empty ones. -/
def lineAt (lines : List Bytes) (n : Nat) : Bytes := lines[n]?.getD []

/-- The number of the first line that differs. -/
structure FirstDifference (old new : List Bytes) (first : Nat) : Prop where
  differs : lineAt old first ≠ lineAt new first
  agree : ∀ n < first, lineAt old n = lineAt new n

/-- What is shown of the line of a number: one line where the texts agree, a pair of a removed and
an added line where they differ.
-/
def linesAt (old new : List Bytes) (maxLine n : Nat) : List Bytes :=
  if lineAt old n = lineAt new n then ["  " ++ Bytes.clip (lineAt new n) maxLine]
  else ["- " ++ Bytes.clip (lineAt old n) maxLine, "+ " ++ Bytes.clip (lineAt new n) maxLine]

/-- The numbers of the lines in a window: consecutive ones from two above the first difference, or
from the first line, as far as the window and the longer text go.
-/
def numbers (old new : List Bytes) (window first : Nat) : List Nat :=
  List.range' (first - 2) (min window (max old.length new.length - (first - 2)))

/-- A diff has a pair of a removed and an added line, and only lines of context in front of it. -/
def FirstPair (diff : List Bytes) (removed added : Bytes) : Prop :=
  ∃ context rest : List Bytes,
    diff = context ++ ("- " ++ removed) :: ("+ " ++ added) :: rest
    ∧ ∀ line ∈ context, ∃ shown : Bytes, line = "  " ++ shown

--------------------------------------------------------------------------------
-- Lines by their numbers
--------------------------------------------------------------------------------

theorem lineAt_of_le {lines : List Bytes} {n : Nat} (beyond : lines.length ≤ n)
    : lineAt lines n = [] := by
  simp [lineAt, beyond]

/-- Lines stand side by side by their numbers, by the recursion that pairs them. -/
theorem pairUp_eq (old new : List Bytes)
    : pairUp old new
      = (List.range (max old.length new.length)).map fun n => (lineAt old n, lineAt new n) := by
  fun_induction pairUp old new with
  | case1 => simp
  | case2 a old ih => simp [ih, List.range_succ_eq_map, lineAt, Function.comp_def]
  | case3 b new ih => simp [ih, List.range_succ_eq_map, lineAt, Function.comp_def]
  | case4 a old b new ih =>
      simp [ih, Nat.add_max_add_right, List.range_succ_eq_map, lineAt, Function.comp_def]

/-- The first difference is a line of one of the texts. -/
theorem FirstDifference.lt {old new : List Bytes} {first : Nat} (h : FirstDifference old new first)
    : first < max old.length new.length := by
  by_contra beyond
  have below := Nat.max_le.mp (Nat.not_lt.mp beyond)
  exact h.differs (by rw [lineAt_of_le below.1, lineAt_of_le below.2])

theorem findIdx?_eq_some_iff {old new : List Bytes} {first : Nat}
    : (pairUp old new).findIdx? differs = some first ↔ FirstDifference old new first := by
  rw [pairUp_eq, List.findIdx?_eq_some_iff_getElem]
  simp only [List.length_map, List.length_range, List.getElem_map, List.getElem_range, differs,
    bne_iff_ne, ne_eq, Decidable.not_not]
  constructor
  · rintro ⟨-, differs, agree⟩
    exact ⟨differs, agree⟩
  · intro h
    exact ⟨h.lt, h.differs, h.agree⟩

theorem findIdx?_eq_none_iff {old new : List Bytes}
    : (pairUp old new).findIdx? differs = none ↔ ∀ n, lineAt old n = lineAt new n := by
  rw [pairUp_eq, List.findIdx?_eq_none_iff]
  simp only [List.mem_map, List.mem_range, forall_exists_index, and_imp, differs, bne_eq_false_iff_eq]
  constructor
  · intro agree n
    by_cases inside : n < max old.length new.length
    · exact agree _ n inside rfl
    · have below := Nat.max_le.mp (Nat.not_lt.mp inside)
      rw [lineAt_of_le below.1, lineAt_of_le below.2]
  · rintro agree _ n - rfl
    exact agree n

--------------------------------------------------------------------------------
-- Windows
--------------------------------------------------------------------------------

/-- A window of pairs shows the lines of its numbers. -/
theorem flatMap_shown (old new : List Bytes) (window maxLine first : Nat)
    : (((pairUp old new).drop (first - 2)).take window).flatMap (shown maxLine)
      = (numbers old new window first).flatMap (linesAt old new maxLine) := by
  have each (n : Nat)
      : shown maxLine (lineAt old n, lineAt new n) = linesAt old new maxLine n := by
    by_cases same : lineAt old n = lineAt new n <;> simp [shown, linesAt, differs, same]
  have cut (start rows : Nat)
      : (List.range' start rows).take window = List.range' start (min window rows) := by
    rcases Nat.le_total window rows with short | long
    · rw [List.take_range'_of_length_ge short, Nat.min_eq_left short]
    · rw [List.take_range'_of_length_le long, Nat.min_eq_right long]
  rw [pairUp_eq, ← List.map_drop, ← List.map_take, List.range_eq_range', List.drop_range', cut,
    List.flatMap_map]
  simp only [each, numbers, Nat.zero_add, Nat.mul_one]

/-- A window of some height holds a line. -/
theorem FirstDifference.shows {old new : List Bytes} {window first : Nat}
    (h : FirstDifference old new first) (height : 0 < window) (maxLine : Nat)
    : (numbers old new window first).flatMap (linesAt old new maxLine) ≠ [] := by
  have lines := h.lt
  obtain ⟨rest, start⟩ : ∃ rest, numbers old new window first = (first - 2) :: rest := by
    rw [numbers, ← Nat.sub_add_cancel (show 1 ≤ min window _ by omega)]
    exact ⟨_, List.range'_succ⟩
  rw [start, List.flatMap_cons, linesAt]
  split <;> simp

/-- Lines in front of the first difference are context. -/
theorem FirstDifference.context {old new : List Bytes} {first : Nat}
    (h : FirstDifference old new first) {before : List Nat} (ahead : ∀ n ∈ before, n < first)
    (maxLine : Nat)
    : ∀ line ∈ before.flatMap (linesAt old new maxLine), ∃ shown : Bytes, line = "  " ++ shown := by
  intro line member
  obtain ⟨n, inside, shown⟩ := List.mem_flatMap.mp member
  rw [linesAt, if_pos (h.agree n (ahead n inside)), List.mem_singleton] at shown
  exact ⟨_, shown⟩

/-- A window that reaches the first difference shows it as the first pair.
Witness: the numbers up to the first difference, itself, and the rest.
-/
theorem FirstDifference.firstPair {old new : List Bytes} {window first : Nat}
    (h : FirstDifference old new first) (reaches : min first 2 < window) (maxLine : Nat)
    : FirstPair ((numbers old new window first).flatMap (linesAt old new maxLine))
        (Bytes.clip (lineAt old first) maxLine) (Bytes.clip (lineAt new first) maxLine) := by
  have lines := h.lt
  obtain ⟨count, size⟩
      : ∃ count, min window (max old.length new.length - (first - 2)) = min first 2 + (count + 1) :=
    ⟨min window (max old.length new.length - (first - 2)) - min first 2 - 1, by omega⟩
  have parts
      : numbers old new window first
        = List.range' (first - 2) (min first 2) ++ first :: List.range' (first + 1) count := by
    rw [numbers, size, ← List.range'_append_1, show first - 2 + min first 2 = first by omega,
      List.range'_succ]
  refine ⟨(List.range' (first - 2) (min first 2)).flatMap (linesAt old new maxLine),
    (List.range' (first + 1) count).flatMap (linesAt old new maxLine), ?_, ?_⟩
  · simp [parts, linesAt, h.differs]
  · refine h.context ?_ maxLine
    intro n member
    have := List.mem_range'_1.mp member
    omega

/-- A window that ends before the first difference shows no pair. -/
theorem FirstDifference.no_pair {old new : List Bytes} {window first : Nat}
    (h : FirstDifference old new first) (short : window ≤ min first 2) (maxLine : Nat)
    (removed added : Bytes)
    : ¬ FirstPair ((numbers old new window first).flatMap (linesAt old new maxLine)) removed
        added := by
  rintro ⟨context, rest, parts, -⟩
  have ahead : ∀ n ∈ numbers old new window first, n < first := by
    intro n member
    have := List.mem_range'_1.mp member
    omega
  obtain ⟨shown, same⟩ := h.context ahead maxLine ("- " ++ removed) (by simp [parts])
  have first : (0x2d : Byte) = 0x20 := congrArg (List.headD · 0) same
  exact absurd first (by decide)

--------------------------------------------------------------------------------
-- Sample diffs
--------------------------------------------------------------------------------

theorem snippet_of_agree {before after : Bytes} (window maxLine : Nat)
    (agree : ∀ n, lineAt (Bytes.lines before) n = lineAt (Bytes.lines after) n)
    : snippet before after window maxLine = [] := by
  simp [snippet, findIdx?_eq_none_iff.mpr agree]

/-- Where texts differ, a diff shows the lines of a window whose end has a number. -/
theorem FirstDifference.snippet_eq {before after : Bytes} {window maxLine first : Nat}
    (h : FirstDifference (Bytes.lines before) (Bytes.lines after) first)
    (counted : first - 2 + window < limit)
    : snippet before after window maxLine
      = (numbers (Bytes.lines before) (Bytes.lines after) window first).flatMap
          (linesAt (Bytes.lines before) (Bytes.lines after) maxLine) := by
  simp only [snippet, findIdx?_eq_some_iff.mpr h, Nat.not_le.mpr counted, if_false]
  exact flatMap_shown _ _ window maxLine first

theorem exists_firstDifference {old new : List Bytes} (differ : ¬ ∀ n, lineAt old n = lineAt new n)
    : ∃ first, FirstDifference old new first := by
  cases found : (pairUp old new).findIdx? differs with
  | none => exact (differ (findIdx?_eq_none_iff.mp found)).elim
  | some first => exact ⟨first, findIdx?_eq_some_iff.mp found⟩

/-- A diff of a window whose end has a number is empty just if every line agrees. Else it shows the
lines of consecutive numbers, the first of them two above the first difference or the first line,
each with its mark and clipped. It shows a pair just if the window reaches the first difference,
which is then the first pair.
-/
theorem snippet_shows {before after : Bytes} {old new : List Bytes}
    (cutOld : LinesOf before old) (cutNew : LinesOf after new) {window maxLine : Int}
    (height : 1 ≤ window) (width : 0 ≤ maxLine)
    (counted
      : ∀ first, FirstDifference old new first → ((first - 2 : Nat) : Int) + window < limit)
    : ∃ diff,
        snippet? before after window maxLine = some diff
        ∧ (diff = [] ↔ ∀ n, lineAt old n = lineAt new n)
        ∧ ∀ first, FirstDifference old new first →
            diff
              = (numbers old new window.toNat first).flatMap (linesAt old new maxLine.toNat)
            ∧ ((∃ removed added, FirstPair diff removed added) ↔ min first 2 < window)
            ∧ (min first 2 < window →
                FirstPair diff (Bytes.clip (lineAt old first) maxLine.toNat)
                  (Bytes.clip (lineAt new first) maxLine.toNat)) := by
  obtain rfl := Bytes.linesOf_iff.mp cutOld
  obtain rfl := Bytes.linesOf_iff.mp cutNew
  have shown {first : Nat}
      (h : FirstDifference (Bytes.lines before) (Bytes.lines after) first)
      : snippet before after window.toNat maxLine.toNat
        = (numbers (Bytes.lines before) (Bytes.lines after) window.toNat first).flatMap
            (linesAt (Bytes.lines before) (Bytes.lines after) maxLine.toNat) := by
    have := counted first h
    exact h.snippet_eq (by omega)
  refine ⟨snippet before after window.toNat maxLine.toNat, ?_, ?_, ?_⟩
  · simp [snippet?, Int.not_lt.mpr width]
  · constructor
    · intro empty
      by_contra differ
      obtain ⟨first, h⟩ := exists_firstDifference differ
      exact h.shows (by omega) maxLine.toNat ((shown h).symm.trans empty)
    · exact snippet_of_agree window.toNat maxLine.toNat
  · intro first h
    rw [shown h]
    have pair (reaches : min first 2 < window) :=
      h.firstPair (show min first 2 < window.toNat by omega) maxLine.toNat
    refine ⟨rfl, ⟨?_, fun reaches => ⟨_, _, pair reaches⟩⟩, pair⟩
    rintro ⟨removed, added, found⟩
    by_contra short
    exact h.no_pair (by omega) maxLine.toNat removed added found

/-- A change of the fifth line, behind breaks of each kind, in a window of three lines. -/
theorem snippet_shows_fifth
    : ∃ diff,
        snippet? "1\r\n2\r3\n4\nold" "1\n2\n3\n4\nnew\n6" 3 200 = some diff
        ∧ FirstPair diff "old" "new" := by
  have first
      : FirstDifference ["1", "2", "3", "4", "old"] ["1", "2", "3", "4", "new", "6"] 4 :=
    ⟨by decide, by decide⟩
  obtain ⟨diff, shown, -, each⟩ :=
    @snippet_shows "1\r\n2\r3\n4\nold" "1\n2\n3\n4\nnew\n6" ["1", "2", "3", "4", "old"]
      ["1", "2", "3", "4", "new", "6"] (Bytes.linesOf_iff.mpr (by decide))
      (Bytes.linesOf_iff.mpr (by decide)) 3 200 (by decide) (by decide) (by
        intro n other
        have inside : n < 6 := other.lt
        rw [limit]
        omega)
  exact ⟨diff, shown, (each 4 first).2.2 (by decide)⟩

/-- A window of one line ends before a change of the third line, so that no pair shows it. -/
theorem snippet_misses_change
    : snippet? "a\nb\nc" "a\nb\nx" 1 200 = some [("  a" : Bytes)]
      ∧ lineAt (Bytes.lines "a\nb\nc") 2 ≠ lineAt (Bytes.lines "a\nb\nx") 2
      ∧ ∀ removed added, ¬ FirstPair [("  a" : Bytes)] removed added := by
  have first : FirstDifference (Bytes.lines "a\nb\nc") (Bytes.lines "a\nb\nx") 2 :=
    ⟨by decide, by decide⟩
  have shown : snippet "a\nb\nc" "a\nb\nx" 1 200 = [("  a" : Bytes)] :=
    (first.snippet_eq (by decide)).trans (by decide)
  refine ⟨by simp [snippet?, shown], first.differs, ?_⟩
  intro removed added
  exact first.no_pair (show 1 ≤ min 2 2 by decide) 200 removed added

end FormMigrate.Diff
