import FormMigrate.Text.Bytes
import Mathlib.Data.List.TakeWhile

/-! Reading a text by offsets. An access has no result where its offset is out of range, and a loop
has none where it never ends, so that a reader with a result on every text stays inside of it and
comes to an end. A round of a loop names the offset at which the next one goes on, which is what
changes from each round to the next.
-/

namespace FormMigrate.Indexed

--------------------------------------------------------------------------------
-- Accesses
--------------------------------------------------------------------------------

/-- The byte at an offset, which has to be one of the text. -/
def byteAt (s : Bytes) (i : Int) : Option Byte := if 0 ≤ i then s[i.toNat]? else none

/-- The text from one offset up to another, both inside the text and in order. -/
def slice (s : Bytes) (i j : Int) : Option Bytes :=
  if 0 ≤ i ∧ i ≤ j ∧ j ≤ s.length then some ((s.take j.toNat).drop i.toNat) else none

/-- An offset to go on from, which has to be inside the text or at its end. -/
def moveTo (s : Bytes) (i : Int) : Option Int := if 0 ≤ i ∧ i ≤ s.length then some i else none

/-- The byte at an offset, and zero from the end of the text on. -/
def peek (s : Bytes) (i : Int) : Option Byte := if s.length ≤ i then some 0 else byteAt s i

/-- The offset after all bytes of a class that follow an offset. -/
def skipWhile (p : Byte → Bool) (s : Bytes) (i : Int) : Option Int := do
  if i < s.length then
    if p (← byteAt s i) then (skipWhile (i := ← moveTo s (i + 1))) p s else return i
  else return i
partial_fixpoint

--------------------------------------------------------------------------------
-- What stands behind an offset
--------------------------------------------------------------------------------

/-- What stands behind an offset of a text. -/
def At (s : Bytes) (i : Int) (rest : Bytes) : Prop :=
  ∃ front : Bytes, s = front ++ rest ∧ i = front.length

variable {s t rest : Bytes} {i : Int} {c : Byte}

theorem At.zero (s : Bytes) : At s 0 s := ⟨[], rfl, rfl⟩

/-- An offset inside a text has the text from there on behind it. -/
theorem At.of_le (least : 0 ≤ i) (most : i ≤ s.length) : At s i (s.drop i.toNat) :=
  ⟨s.take i.toNat, (List.take_append_drop _ _).symm, by rw [List.length_take]; omega⟩

theorem At.nonneg (here : At s i rest) : 0 ≤ i := by
  obtain ⟨front, rfl, rfl⟩ := here
  exact Int.natCast_nonneg _

/-- An offset and what stands behind it make up the length of the text. -/
theorem At.add_length (here : At s i rest) : i + rest.length = s.length := by
  obtain ⟨front, rfl, rfl⟩ := here
  rw [List.length_append]
  rfl

theorem At.drop_eq (here : At s i rest) : s.drop i.toNat = rest := by
  obtain ⟨front, rfl, rfl⟩ := here
  exact List.drop_left

/-- The offset behind what was read. -/
theorem At.append (here : At s i (t ++ rest)) : At s (i + t.length) rest := by
  obtain ⟨front, rfl, rfl⟩ := here
  exact ⟨front ++ t, (List.append_assoc _ _ _).symm, by rw [List.length_append]; rfl⟩

theorem At.cons (here : At s i (c :: rest)) : At s (i + 1) rest :=
  At.append (t := [c]) here

/-- The offset a number of bytes further on, if so many are left. -/
theorem At.drop (here : At s i rest) {n : Nat} (left : n ≤ rest.length)
    : At s (i + n) (rest.drop n) := by
  rw [← List.take_append_drop n rest] at here
  have behind := here.append
  rwa [List.length_take, Nat.min_eq_left left] at behind

--------------------------------------------------------------------------------
-- Accesses behind an offset
--------------------------------------------------------------------------------

theorem At.moveTo (here : At s i rest) : moveTo s i = some i := by
  have whole := here.add_length
  exact if_pos ⟨here.nonneg, by omega⟩

theorem At.lt (here : At s i (c :: rest)) : i < s.length := by
  have whole := here.add_length
  rw [List.length_cons] at whole
  omega

theorem At.not_lt (here : At s i []) : ¬ i < s.length := by
  have whole := here.add_length
  rw [List.length_nil] at whole
  omega

theorem At.byteAt (here : At s i (c :: rest)) : byteAt s i = some c := by
  obtain ⟨front, rfl, rfl⟩ := here
  rw [Indexed.byteAt, if_pos (Int.natCast_nonneg _), Int.toNat_natCast,
    List.getElem?_append_right (Nat.le_refl _), Nat.sub_self, List.getElem?_cons_zero]

/-- The byte behind an offset is looked at, or zero at the end. -/
theorem At.peek (here : At s i rest) : peek s i = some (rest.head?.getD 0) := by
  cases rest with
  | nil => exact if_pos (Int.not_lt.mp here.not_lt)
  | cons c rest =>
      rw [Indexed.peek, if_neg (Int.not_le.mpr here.lt), here.byteAt]
      rfl

/-- A byte that is looked at from an offset inside the text. -/
theorem At.peek_add (here : At s i rest) (n : Nat)
    : Indexed.peek s (i + n) = some (rest[n]?.getD 0) := by
  obtain ⟨front, rfl, rfl⟩ := here
  rw [Indexed.peek, Indexed.byteAt]
  split
  · rename_i beyond
    rw [List.length_append] at beyond
    rw [List.getElem?_eq_none (by omega), Option.getD_none]
  · rename_i inside
    rw [List.length_append] at inside
    rw [if_pos (by omega), List.getElem?_append_right (by omega),
      show ((front.length : Int) + n).toNat - front.length = n by omega]
    cases found : rest[n]? with
    | none => rw [List.getElem?_eq_none_iff] at found; omega
    | some b => rfl

/-- What was read between two offsets. -/
theorem At.slice (here : At s i (t ++ rest)) : slice s i (i + t.length) = some t := by
  obtain ⟨front, rfl, rfl⟩ := here
  rw [Indexed.slice, if_pos ⟨by omega, by omega, by simp only [List.length_append]; omega⟩,
    show ((front.length : Int) + t.length).toNat = (front ++ t).length by
      rw [List.length_append]; omega,
    ← List.append_assoc, List.take_left, Int.toNat_natCast, List.drop_left]

/-- A number of bytes behind an offset, if so many are left. -/
theorem At.slice_take (here : At s i rest) {n : Nat} (left : n ≤ rest.length)
    : Indexed.slice s i (i + n) = some (rest.take n) := by
  rw [← List.take_append_drop n rest] at here
  have front := here.slice
  rwa [List.length_take, Nat.min_eq_left left] at front

/-- All that stands behind an offset. -/
theorem At.slice_length (here : At s i rest) : Indexed.slice s i s.length = some rest := by
  have all := here.slice_take (Nat.le_refl rest.length)
  rwa [here.add_length, List.take_length] at all

/-- The bytes in front of an offset. -/
theorem slice_zero {n : Nat} (inside : n ≤ s.length) : Indexed.slice s 0 n = some (s.take n) := by
  rw [Indexed.slice, if_pos ⟨Int.le_refl 0, by omega, by omega⟩]
  rfl

/-- Skipping a class of bytes ends behind them, by induction on what stands behind the offset. -/
theorem At.skipWhile (p : Byte → Bool) (here : At s i rest)
    : ∃ j, skipWhile p s i = some j ∧ j = i + (rest.takeWhile p).length
        ∧ At s j (rest.dropWhile p) := by
  induction rest generalizing i with
  | nil =>
      refine ⟨i, ?_, by simp, here⟩
      rw [Indexed.skipWhile, if_neg here.not_lt]
      rfl
  | cons c rest ih =>
      rw [Indexed.skipWhile, if_pos here.lt, here.byteAt, Option.bind_eq_bind, Option.bind_some]
      by_cases inside : p c = true
      · obtain ⟨j, skipped, length, behind⟩ := ih here.cons
        refine ⟨j, ?_, ?_, ?_⟩
        · rw [if_pos inside, here.cons.moveTo]
          exact skipped
        · rw [List.takeWhile_cons_of_pos inside, List.length_cons, length]
          omega
        · rwa [List.dropWhile_cons_of_pos inside]
      · refine ⟨i, if_neg inside, ?_, ?_⟩
        · rw [List.takeWhile_cons_of_neg inside]
          simp
        · rwa [List.dropWhile_cons_of_neg inside]

end FormMigrate.Indexed
