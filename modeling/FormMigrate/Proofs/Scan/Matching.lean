import FormMigrate.Proofs.Scan.Extent
import FormMigrate.Proofs.Scan.Nesting
import FormMigrate.Proofs.Text.Byte
import Mathlib.Data.Nat.Find

/-! Matching brackets by counting: the match of a bracket is the first place behind it up to which
its family is closed once more than it is opened, and no text but the one up to there matters.
-/

namespace FormMigrate

--------------------------------------------------------------------------------
-- Statement
--------------------------------------------------------------------------------

/-- By how many brackets a family is opened more often than closed in a text, outside strings. -/
def surplus (opener closer : Byte) (q : QuoteState) (s : Bytes) : Int :=
  ((brackets q s).count opener : Int) - (brackets q s).count closer

namespace Extent

/-- The number of brackets of a family that are open behind one at an offset and the bytes up to a
place, with the byte there.
-/
def openAt (src : Bytes) (opener closer : Byte) (opening place : Nat) : Int :=
  1 + surplus opener closer .outside ((src.take (place + 1)).drop (opening + 1))

/-- The bracket at an offset is matched at a place: it is the first one behind the bracket at which
no bracket of the family is open.
-/
structure Matches (src : Bytes) (opener closer : Byte) (opening place : Nat) : Prop where
  opens : src[opening]? = some opener
  family : closerOf? opener = some closer
  behind : opening < place
  inside : place < src.length
  closed : openAt src opener closer opening place = 0
  first : ∀ k, opening < k → k < place → openAt src opener closer opening k ≠ 0

/-- A bracket is opened at an offset and never closed. -/
structure Unclosed (src : Bytes) (opener closer : Byte) (opening : Nat) : Prop where
  opens : src[opening]? = some opener
  family : closerOf? opener = some closer
  never : ∀ k, opening < k → k < src.length → openAt src opener closer opening k ≠ 0

/-- The opening brackets of all families. -/
def openers : Bytes := [0x28, 0x5b, 0x7b]

/-- No bracket is opened at an offset: it is out of range, or another byte stands there. -/
def Unopened (src : Bytes) (opening : Int) : Prop :=
  opening < 0
  ∨ src.length ≤ opening
  ∨ ∃ c, src[opening.toNat]? = some c ∧ c ∉ openers

end Extent

--------------------------------------------------------------------------------
-- Counting byte by byte
--------------------------------------------------------------------------------

/-- How one byte changes the number of open brackets of a family. -/
def gain (opener closer : Byte) (q : QuoteState) (c : Byte) : Int :=
  if q.isInert c then 0 else if c = opener then 1 else if c = closer then -1 else 0

theorem surplus_nil (opener closer : Byte) (q : QuoteState) : surplus opener closer q [] = 0 := rfl

theorem surplus_cons {opener closer : Byte} (family : closerOf? opener = some closer)
    (q : QuoteState) (c : Byte) (rest : Bytes)
    : surplus opener closer q (c :: rest)
      = gain opener closer q c + surplus opener closer (q.next c) rest := by
  have shut := closer_closes family
  have opens : isBracket opener = true := by simp [isBracket, family]
  have closes : isBracket closer = true := by simp [isBracket, shut.2]
  have apart : opener ≠ closer := by
    rintro rfl
    rw [family] at shut
    cases shut.1
  rw [surplus, brackets, gain]
  cases inert : q.isInert c with
  | true => simp [surplus]
  | false =>
      by_cases first : c = opener
      · subst first
        simp [opens, List.count_cons_of_ne apart, surplus]
        omega
      · by_cases last : c = closer
        · subst last
          simp [closes, List.count_cons_of_ne first, first, surplus]
          omega
        · cases bracket : isBracket c with
          | true => simp [List.count_cons_of_ne first, List.count_cons_of_ne last, first, last,
              surplus]
          | false => simp [first, last, surplus]

namespace Extent

/-- One byte of the search for a match: the last open bracket is closed, or the search goes on with
as many open brackets as the byte leaves.
-/
theorem innerLength?_cons (opener closer : Byte) (q : QuoteState) {depth : Nat}
    (positive : 0 < depth) (c : Byte)
    : (depth + gain opener closer q c = 0
        ∧ ∀ rest, innerLength? opener closer q depth (c :: rest) = some 0)
      ∨ ∃ depth' : Nat,
          0 < depth'
          ∧ depth' = depth + gain opener closer q c
          ∧ ∀ rest,
              innerLength? opener closer q depth (c :: rest)
                = (innerLength? opener closer (q.next c) depth' rest).map (· + 1) := by
  unfold gain
  by_cases inert : q.isInert c = true
  · exact .inr ⟨depth, positive, by simp [inert], fun rest => by rw [innerLength?, if_pos inert]⟩
  · by_cases opens : c = opener
    · refine .inr ⟨depth + 1, Nat.succ_pos depth, ?_, fun rest => ?_⟩
      · rw [if_neg inert, if_pos opens]
        rfl
      · rw [innerLength?, if_neg inert, if_pos (beq_iff_eq.mpr opens)]
    · by_cases closes : c = closer
      · rcases Nat.lt_or_ge 1 depth with deep | shallow
        · refine .inr ⟨depth - 1, Nat.sub_pos_of_lt deep, ?_, fun rest => ?_⟩
          · rw [if_neg inert, if_neg opens, if_pos closes]
            omega
          · rw [innerLength?, if_neg inert, if_neg (by simpa using opens),
              if_pos (beq_iff_eq.mpr closes), if_neg (Nat.not_le_of_lt deep)]
        · refine .inl ⟨?_, fun rest => ?_⟩
          · rw [if_neg inert, if_neg opens, if_pos closes]
            omega
          · rw [innerLength?, if_neg inert, if_neg (by simpa using opens),
              if_pos (beq_iff_eq.mpr closes), if_pos shallow]
      · refine .inr ⟨depth, positive, by simp [inert, opens, closes], fun rest => ?_⟩
        rw [innerLength?, if_neg inert, if_neg (by simpa using opens),
          if_neg (by simpa using closes)]

/-- The search for a match ends before the first byte that leaves no bracket open.
Witness: induction on the text, whose first byte ends the search or leaves some brackets open.
-/
theorem innerLength?_eq_some_iff {opener closer : Byte} (family : closerOf? opener = some closer)
    {q : QuoteState} {depth : Nat} (positive : 0 < depth) {s : Bytes} {n : Nat}
    : innerLength? opener closer q depth s = some n
      ↔ n < s.length
        ∧ depth + surplus opener closer q (s.take (n + 1)) = 0
        ∧ ∀ m < n, depth + surplus opener closer q (s.take (m + 1)) ≠ 0 := by
  induction s generalizing q depth n with
  | nil => simp [innerLength?]
  | cons c rest ih =>
      simp only [List.take_succ_cons, surplus_cons family, ← Int.add_assoc, List.length_cons]
      rcases innerLength?_cons opener closer q positive c
        with ⟨ends, same⟩ | ⟨depth', positive', left, same⟩
      · rw [same, ends, Option.some.injEq]
        constructor
        · rintro rfl
          exact ⟨Nat.succ_pos _, rfl, fun m before => absurd before (Nat.not_lt_zero m)⟩
        · rintro ⟨-, -, never⟩
          rcases Nat.eq_zero_or_pos n with rfl | later
          · rfl
          · exact (never 0 later rfl).elim
      · rw [same, Option.map_eq_some_iff, ← left]
        constructor
        · rintro ⟨k, found, rfl⟩
          obtain ⟨inside, closed, never⟩ := (ih positive').mp found
          refine ⟨Nat.succ_lt_succ inside, closed, fun m before => ?_⟩
          cases m with
          | zero =>
              rw [List.take_zero, surplus_nil]
              omega
          | succ m => exact never m (Nat.lt_of_succ_lt_succ before)
        · rintro ⟨inside, closed, never⟩
          cases n with
          | zero =>
              rw [List.take_zero, surplus_nil] at closed
              omega
          | succ n =>
              exact ⟨n, (ih positive').mpr ⟨Nat.lt_of_succ_lt_succ inside, closed,
                fun m before => never (m + 1) (Nat.succ_lt_succ before)⟩, rfl⟩

/-- The search finds nothing where some bracket is left open all along. -/
theorem innerLength?_eq_none_iff {opener closer : Byte} (family : closerOf? opener = some closer)
    {q : QuoteState} {depth : Nat} (positive : 0 < depth) {s : Bytes}
    : innerLength? opener closer q depth s = none
      ↔ ∀ n < s.length, depth + surplus opener closer q (s.take (n + 1)) ≠ 0 := by
  constructor
  · intro nothing n inside closed
    have somewhere
        : ∃ n, n < s.length ∧ depth + surplus opener closer q (s.take (n + 1)) = 0 :=
      ⟨n, inside, closed⟩
    obtain ⟨inside, closed⟩ := Nat.find_spec somewhere
    have found := (innerLength?_eq_some_iff family positive).mpr ⟨inside, closed,
      fun m before closed => Nat.find_min somewhere before ⟨Nat.lt_trans before inside, closed⟩⟩
    rw [nothing] at found
    cases found
  · intro never
    refine Option.eq_none_iff_forall_ne_some.mpr fun n found => ?_
    obtain ⟨inside, closed, -⟩ := (innerLength?_eq_some_iff family positive).mp found
    exact never n inside closed

--------------------------------------------------------------------------------
-- The bracket at an offset
--------------------------------------------------------------------------------

theorem closerOf?_eq_none_iff {c : Byte} : closerOf? c = none ↔ c ∉ openers := by
  have each : ∀ c : Byte, closerOf? c = none ↔ c ∉ openers := by decide
  exact each c

/-- The count at a place is the one over the bytes behind the bracket, up to the place. -/
theorem openAt_eq (src : Bytes) (opener closer : Byte) (opening n : Nat)
    : openAt src opener closer opening (opening + 1 + n)
      = 1 + surplus opener closer .outside ((src.drop (opening + 1)).take (n + 1)) := by
  rw [openAt, List.drop_take, Nat.add_assoc, Nat.add_sub_cancel_left]

/-- The search from behind a bracket ends at its match. -/
theorem innerLength?_eq_some_iff_matches {src : Bytes} {opener closer : Byte} {opening : Nat}
    (opens : src[opening]? = some opener) (family : closerOf? opener = some closer) {n : Nat}
    : innerLength? opener closer .outside 1 (src.drop (opening + 1)) = some n
      ↔ Matches src opener closer opening (opening + 1 + n) := by
  rw [innerLength?_eq_some_iff family Nat.one_pos, List.length_drop]
  constructor
  · rintro ⟨inside, closed, never⟩
    refine ⟨opens, family, by omega, by omega, (openAt_eq ..).trans closed, ?_⟩
    intro k behind before
    obtain ⟨m, rfl⟩ := Nat.exists_eq_add_of_le behind
    rw [Nat.succ_eq_add_one, openAt_eq]
    exact never m (by omega)
  · intro matched
    have inside := matched.inside
    refine ⟨by omega, (openAt_eq ..).symm.trans matched.closed, fun m before => ?_⟩
    have never := matched.first (opening + 1 + m) (by omega) (by omega)
    rwa [openAt_eq] at never

/-- The search from behind a bracket finds nothing where the bracket stays open. -/
theorem innerLength?_eq_none_iff_open {src : Bytes} {opener closer : Byte} {opening : Nat}
    (family : closerOf? opener = some closer)
    : innerLength? opener closer .outside 1 (src.drop (opening + 1)) = none
      ↔ ∀ k, opening < k → k < src.length → openAt src opener closer opening k ≠ 0 := by
  rw [innerLength?_eq_none_iff family Nat.one_pos, List.length_drop]
  constructor
  · intro never k behind inside
    obtain ⟨n, rfl⟩ := Nat.exists_eq_add_of_le behind
    rw [Nat.succ_eq_add_one, openAt_eq]
    exact never n (by omega)
  · intro never n inside
    have stays := never (opening + 1 + n) (by omega) (by omega)
    rwa [openAt_eq] at stays

--------------------------------------------------------------------------------
-- Extraction
--------------------------------------------------------------------------------

theorem not_unopened {src : Bytes} {opener closer : Byte} {opening : Nat}
    (opens : src[opening]? = some opener) (family : closerOf? opener = some closer)
    : ¬ Unopened src opening := by
  have inside := (List.getElem?_eq_some_iff.mp opens).1
  rintro (negative | outside | ⟨c, found, other⟩)
  · omega
  · omega
  · rw [Int.toNat_natCast, opens] at found
    obtain rfl := Option.some.inj found
    rw [closerOf?_eq_none_iff.mpr other] at family
    cases family

/-- A bracket has one match. -/
theorem Matches.unique {src : Bytes} {opener closer opener' closer' : Byte}
    {opening place place' : Nat} (h : Matches src opener closer opening place)
    (h' : Matches src opener' closer' opening place')
    : place = place' := by
  obtain rfl : opener = opener' := Option.some.inj (h.opens.symm.trans h'.opens)
  obtain rfl : closer = closer' := Option.some.inj (h.family.symm.trans h'.family)
  rcases Nat.lt_trichotomy place place' with before | same | before
  · exact (h'.first place h.behind before h.closed).elim
  · exact same
  · exact (h.first place' h'.behind before h'.closed).elim

/-- What is extracted at an offset: nothing where no bracket is opened, the region up to the match
of one, or nothing where one is never closed.
-/
theorem extract_cases (src : Bytes) (opening : Int)
    : (Unopened src opening ∧ extract src opening = .error .notAnOpener)
      ∨ ∃ (start : Nat) (opener closer : Byte),
          opening = start
          ∧ ((∃ place,
                Matches src opener closer start place
                ∧ extract src opening = .ok ⟨(src.take place).drop (start + 1), start, place⟩)
              ∨ (Unclosed src opener closer start ∧ extract src opening = .error .unbalanced)) := by
  cases opening with
  | negSucc n => exact .inl ⟨.inl (Int.negSucc_lt_zero n), rfl⟩
  | ofNat start =>
      have region := extract_natCast src start
      rcases Nat.lt_or_ge start src.length with inside | outside
      · have here := List.getElem?_eq_getElem inside
        rw [List.drop_eq_getElem_cons inside, innerOf] at region
        cases family : closerOf? src[start] with
        | none =>
            rw [family] at region
            exact .inl ⟨.inr (.inr ⟨_, here, closerOf?_eq_none_iff.mp family⟩), region⟩
        | some closer =>
            refine .inr ⟨start, src[start], closer, rfl, ?_⟩
            rw [family] at region
            dsimp only at region
            cases closes
              : innerLength? src[start] closer .outside 1 (src.drop (start + 1)) with
            | none =>
                rw [closes] at region
                exact .inr ⟨⟨here, family, (innerLength?_eq_none_iff_open family).mp closes⟩, region⟩
            | some n =>
                have slice
                    : (src.take (start + 1 + n)).drop (start + 1) = (src.drop (start + 1)).take n := by
                  rw [List.drop_take, Nat.add_sub_cancel_left]
                rw [closes] at region
                refine .inl ⟨_, (innerLength?_eq_some_iff_matches here family).mp closes, ?_⟩
                dsimp only [Except.map] at region
                rw [List.length_take_of_le (Nat.le_of_lt (innerLength?_lt closes))] at region
                rw [slice]
                exact region
      · rw [List.drop_eq_nil_of_le outside] at region
        exact .inl ⟨.inr (.inl (Int.ofNat_le.mpr outside)), region⟩

/-- A region is extracted exactly when the bracket at the offset is matched, and it is the one
between the bracket and its match.
-/
theorem extract_eq_ok_iff_matches {src : Bytes} {opening : Int} {extent : Extent}
    : extract src opening = .ok extent
      ↔ ∃ opener closer,
          opening = extent.opening
          ∧ Matches src opener closer extent.opening extent.closing
          ∧ extent.inner = (src.take extent.closing).drop (extent.opening + 1) := by
  constructor
  · intro found
    rcases extract_cases src opening with
      ⟨-, failed⟩ | ⟨start, opener, closer, rfl, ⟨place, matched, region⟩ | ⟨-, failed⟩⟩
    · cases failed.symm.trans found
    · cases region.symm.trans found
      exact ⟨opener, closer, rfl, matched, rfl⟩
    · cases failed.symm.trans found
  · obtain ⟨inner, opening', place⟩ := extent
    rintro ⟨opener, closer, rfl, matched, same⟩
    dsimp only at matched same ⊢
    rcases extract_cases src opening' with
      ⟨unopened, -⟩ | ⟨start, _, _, here, ⟨place', matched', region⟩ | ⟨unclosed, -⟩⟩
    · exact (not_unopened matched.opens matched.family unopened).elim
    · obtain rfl : start = opening' := Int.ofNat.inj here.symm
      rw [region, same, matched.unique matched']
    · obtain rfl : start = opening' := Int.ofNat.inj here.symm
      obtain rfl := Option.some.inj (matched.opens.symm.trans unclosed.opens)
      obtain rfl := Option.some.inj (matched.family.symm.trans unclosed.family)
      exact (unclosed.never place matched.behind matched.inside matched.closed).elim

/-- A bracket is unbalanced exactly when it is never closed. -/
theorem extract_eq_unbalanced_iff {src : Bytes} {opening : Int}
    : extract src opening = .error .unbalanced
      ↔ ∃ (start : Nat) (opener closer : Byte),
          opening = start ∧ Unclosed src opener closer start := by
  constructor
  · intro failed
    rcases extract_cases src opening with
      ⟨-, other⟩ | ⟨start, opener, closer, here, ⟨place, -, found⟩ | ⟨unclosed, -⟩⟩
    · cases other.symm.trans failed
    · cases found.symm.trans failed
    · exact ⟨start, opener, closer, here, unclosed⟩
  · rintro ⟨start, opener, closer, rfl, unclosed⟩
    rcases extract_cases src start with
      ⟨unopened, -⟩ | ⟨start', _, _, here, ⟨place, matched, -⟩ | ⟨-, failed⟩⟩
    · exact (not_unopened unclosed.opens unclosed.family unopened).elim
    · obtain rfl : start' = start := Int.ofNat.inj here.symm
      obtain rfl := Option.some.inj (unclosed.opens.symm.trans matched.opens)
      obtain rfl := Option.some.inj (unclosed.family.symm.trans matched.family)
      exact (unclosed.never place matched.behind matched.inside matched.closed).elim
    · exact failed

/-- An offset is refused exactly when no bracket is opened there. -/
theorem extract_eq_notAnOpener_iff {src : Bytes} {opening : Int}
    : extract src opening = .error .notAnOpener ↔ Unopened src opening := by
  constructor
  · intro failed
    rcases extract_cases src opening with
      ⟨unopened, -⟩ | ⟨start, _, _, -, ⟨place, -, found⟩ | ⟨-, other⟩⟩
    · exact unopened
    · cases found.symm.trans failed
    · cases other.symm.trans failed
  · intro unopened
    rcases extract_cases src opening with
      ⟨-, failed⟩ | ⟨start, _, _, rfl, ⟨place, matched, -⟩ | ⟨unclosed, -⟩⟩
    · exact failed
    · exact (not_unopened matched.opens matched.family unopened).elim
    · exact (not_unopened unclosed.opens unclosed.family unopened).elim

/-- A match stays one in a longer text, whatever stands before the text and behind it. -/
theorem Matches.shift {src : Bytes} {opener closer : Byte} {opening place : Nat}
    (h : Matches src opener closer opening place) (before behind : Bytes)
    : Matches (before ++ (src ++ behind)) opener closer (before.length + opening)
        (before.length + place) := by
  have inside := h.inside
  have order := h.behind
  have same {k : Nat} (within : k < src.length)
      : openAt (before ++ (src ++ behind)) opener closer (before.length + opening)
          (before.length + k)
        = openAt src opener closer opening k := by
    have take : (before ++ (src ++ behind)).take (before.length + k + 1)
        = before ++ src.take (k + 1) := by
      rw [Nat.add_assoc, List.take_length_add_append, List.take_append_of_le_length within]
    rw [openAt, openAt, take, Nat.add_assoc, List.drop_length_add_append]
  refine ⟨?_, h.family, by omega, ?_, (same inside).trans h.closed, fun k after before' => ?_⟩
  · rw [List.getElem?_append_right (Nat.le_add_right _ _), Nat.add_sub_cancel_left,
      List.getElem?_append_left (by omega), h.opens]
  · simp only [List.length_append]
    omega
  · obtain ⟨m, rfl⟩ := Nat.exists_eq_add_of_le (Nat.le_of_lt (Nat.lt_of_le_of_lt
      (Nat.le_add_right before.length opening) after))
    rw [same (by omega)]
    exact h.first m (by omega) (by omega)

/-- Extraction finds the match of the bracket at an offset by counting the brackets of its family
outside strings, and nothing but the text up to the match matters to it.
Witness: the search keeps the number of open brackets, so it ends where this comes to zero.
-/
theorem extract_matches (src : Bytes) (opening : Int)
    : (extract src opening = .error .notAnOpener ↔ Unopened src opening)
      ∧ (∀ extent,
          extract src opening = .ok extent
          ↔ ∃ opener closer,
              opening = extent.opening
              ∧ Matches src opener closer extent.opening extent.closing
              ∧ extent.inner = (src.take extent.closing).drop (extent.opening + 1))
      ∧ (extract src opening = .error .unbalanced
          ↔ ∃ (start : Nat) (opener closer : Byte),
              opening = start ∧ Unclosed src opener closer start)
      ∧ ∀ extent,
          extract src opening = .ok extent
          → ∀ before behind : Bytes,
              extract (before ++ (src ++ behind)) (before.length + opening)
                = .ok ⟨extent.inner, before.length + extent.opening,
                    before.length + extent.closing⟩ := by
  refine ⟨extract_eq_notAnOpener_iff, fun _ => extract_eq_ok_iff_matches,
    extract_eq_unbalanced_iff, fun extent found before behind => ?_⟩
  obtain ⟨opener, closer, rfl, matched, inner⟩ := extract_eq_ok_iff_matches.mp found
  have inside := matched.inside
  refine extract_eq_ok_iff_matches.mpr
    ⟨opener, closer, rfl, matched.shift before behind, ?_⟩
  rw [inner, List.take_length_add_append, List.take_append_of_le_length (Nat.le_of_lt inside),
    Nat.add_assoc, List.drop_length_add_append]

/-- A closing bracket in a string, nested brackets and unmatched ones of other families are passed
over, wherever the text stands.
-/
theorem extract_matches_call
    : extract "f(a, ')', (b]]), c) + d" 1 = .ok ⟨"a, ')', (b]]), c", 1, 18⟩
      ∧ (∃ opener closer, Matches "f(a, ')', (b]]), c) + d" opener closer 1 18)
      ∧ extract "')' . f(a, ')', (b]]), c) + d);" 7 = .ok ⟨"a, ')', (b]]), c", 7, 24⟩ := by
  have found : extract "f(a, ')', (b]]), c) + d" 1 = .ok ⟨"a, ')', (b]]), c", 1, 18⟩ := by rfl
  obtain ⟨-, region, -, within⟩ := extract_matches "f(a, ')', (b]]), c) + d" 1
  obtain ⟨opener, closer, -, matched, -⟩ := (region _).mp found
  exact ⟨found, ⟨opener, closer, matched⟩, within _ found "')' . " ");"⟩

end Extent

end FormMigrate
