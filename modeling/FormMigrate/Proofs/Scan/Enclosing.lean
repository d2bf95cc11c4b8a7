import FormMigrate.Proofs.Scan.Matching
import FormMigrate.Proofs.Text.Slice

/-! Brackets around a well-nested text: the search for their match passes over such a text as a
whole, so it may be replaced by another one.
-/

namespace FormMigrate.Extent

--------------------------------------------------------------------------------
-- The search for a closing bracket
--------------------------------------------------------------------------------

/-- A byte outside strings opens a bracket of a family, closes one, or leaves the family alone. -/
theorem count_of_await? {opener closer c : Byte} (family : closerOf? opener = some closer)
    {awaited after : Bytes} (h : await? awaited c = some after)
    : (c = opener ∧ after.count closer = awaited.count closer + 1)
      ∨ (c ≠ opener ∧ c = closer ∧ awaited.count closer = after.count closer + 1)
      ∨ (c ≠ opener ∧ c ≠ closer ∧ after.count closer = awaited.count closer) := by
  have shut := closer_closes family
  unfold await? at h
  split at h
  · rename_i closer' family'
    cases h
    by_cases same : c = opener
    · subst same
      rw [family] at family'
      cases family'
      exact .inl ⟨rfl, List.count_cons_self⟩
    · have apart : closer' ≠ closer := by
        rintro rfl
        exact same (closerOf?_inj family' family)
      refine .inr (.inr ⟨same, ?_, List.count_cons_of_ne apart⟩)
      rintro rfl
      rw [shut.1] at family'
      cases family'
  · rename_i opensNone
    have same : c ≠ opener := by
      rintro rfl
      rw [family] at opensNone
      cases opensNone
    split at h
    · cases awaited with
      | nil => cases h
      | cons expected others =>
          simp only at h
          split at h
          · rename_i closes
            cases h
            obtain rfl := beq_iff_eq.mp closes
            by_cases own : c = closer
            · subst own
              exact .inr (.inl ⟨same, rfl, List.count_cons_self⟩)
            · exact .inr (.inr ⟨same, own, (List.count_cons_of_ne own).symm⟩)
          · cases h
    · rename_i plain
      cases h
      refine .inr (.inr ⟨same, ?_, rfl⟩)
      rintro rfl
      exact plain shut.2

/-- The search for a match counts the brackets of its family that a scan for nesting awaits.
Witness: induction on the text. A bracket of the family changes both counts alike, and any other
byte changes neither of them.
-/
theorem innerLength?_after {opener closer : Byte} (family : closerOf? opener = some closer)
    {nesting next : Nesting} {s : Bytes} (h : nesting.after? s = some next) {depth : Nat}
    (positive : 0 < depth) (t : Bytes)
    : innerLength? opener closer nesting.quotes (depth + nesting.awaited.count closer) (s ++ t)
      = (innerLength? opener closer next.quotes (depth + next.awaited.count closer) t).map
          (· + s.length) := by
  induction s generalizing nesting with
  | nil =>
      cases h
      simp
  | cons c rest ih =>
      obtain ⟨mid, step, later⟩ := Option.bind_eq_some_iff.mp h
      have further := ih later
      obtain ⟨q, awaited⟩ := nesting
      have length : (innerLength? opener closer next.quotes (depth + next.awaited.count closer)
            t).map (· + (c :: rest).length)
          = ((innerLength? opener closer next.quotes (depth + next.awaited.count closer)
              t).map (· + rest.length)).map (· + 1) := by
        rw [Option.map_map]
        rfl
      rw [length, ← further]
      simp only [Nesting.next?] at step
      simp only [List.cons_append, innerLength?]
      split at step
      · rename_i inert
        cases step
        rw [if_pos inert]
      · rename_i active
        obtain ⟨after, settled, rfl⟩ := Option.map_eq_some_iff.mp step
        rw [if_neg active]
        rcases count_of_await? family settled with ⟨opens, more⟩ | ⟨other, closes, fewer⟩ | same
        · rw [if_pos (beq_iff_eq.mpr opens), more, Nat.add_assoc]
        · rw [if_neg (by simpa using other), if_pos (beq_iff_eq.mpr closes),
            if_neg (by omega), fewer, ← Nat.add_assoc, Nat.add_sub_cancel]
        · obtain ⟨other, other', same⟩ := same
          rw [if_neg (by simpa using other), if_neg (by simpa using other'), same]

theorem innerLength?_wellNested {opener closer : Byte} (family : closerOf? opener = some closer)
    {s : Bytes} (h : WellNested s) {depth : Nat} (positive : 0 < depth) (t : Bytes)
    : innerLength? opener closer .outside depth (s ++ t)
      = (innerLength? opener closer .outside depth t).map (· + s.length) :=
  innerLength?_after family (wellNested_iff.mp h) positive t

/-- The search for a match ends inside a text, whatever follows, or goes on behind it. -/
theorem innerLength?_prefix (opener closer : Byte) (q : QuoteState) {depth : Nat}
    (positive : 0 < depth) (s : Bytes)
    : (∃ n < s.length, ∀ t, innerLength? opener closer q depth (s ++ t) = some n)
      ∨ ∃ depth',
          0 < depth'
          ∧ ∀ t,
              innerLength? opener closer q depth (s ++ t)
                = (innerLength? opener closer (q.after s) depth' t).map (· + s.length) := by
  induction s generalizing q depth with
  | nil => exact .inr ⟨depth, positive, by simp [QuoteState.after]⟩
  | cons c rest ih =>
      rcases innerLength?_cons opener closer q positive c with ⟨-, last⟩ | ⟨further, above, -, held⟩
      · exact .inl ⟨0, Nat.succ_pos rest.length, fun t => last (rest ++ t)⟩
      · rcases ih (q.next c) above with ⟨n, inside, ends⟩ | ⟨depth', above', passes⟩
        · exact .inl ⟨n + 1, Nat.succ_lt_succ inside, fun t => by
            rw [List.cons_append, held, ends, Option.map_some]⟩
        · refine .inr ⟨depth', above', fun t => ?_⟩
          rw [List.cons_append, held, passes, Option.map_map]
          rfl

--------------------------------------------------------------------------------
-- Replacing a well-nested text
--------------------------------------------------------------------------------

/-- A well-nested text behind a bracket, outside strings and before the match of the bracket, may be
replaced by another one: the bracket is still matched, and its region changes by the difference of
the two lengths.
-/
theorem innerOf_replace {c : Byte} {before call text behind inner : Bytes}
    (outside : QuoteState.outside.after before = .outside) (nested : WellNested call)
    (nested' : WellNested text)
    (h : innerOf (c :: (before ++ (call ++ behind))) = .ok inner)
    (reaches : before.length ≤ inner.length)
    : ∃ inner',
        innerOf (c :: (before ++ (text ++ behind))) = .ok inner'
        ∧ inner'.length + call.length = inner.length + text.length := by
  simp only [innerOf] at h ⊢
  split at h
  · cases h
  · rename_i closer family
    split at h
    · cases h
    · rename_i n found
      have inside := innerLength?_lt found
      cases h
      rw [List.length_take, Nat.min_eq_left (Nat.le_of_lt inside)] at reaches
      rcases innerLength?_prefix c closer .outside Nat.one_pos before
        with ⟨m, early, ends⟩ | ⟨depth, positive, passes⟩
      · -- A match before the text would contradict that the region reaches it.
        rw [ends] at found
        cases found
        omega
      · rw [outside] at passes
        rw [passes, innerLength?_wellNested family nested positive] at found
        rw [Option.map_map, Option.map_eq_some_iff] at found
        obtain ⟨k, closes, rfl⟩ := found
        have shifted : innerLength? c closer .outside 1 (before ++ (text ++ behind))
            = some (k + text.length + before.length) := by
          rw [passes, innerLength?_wellNested family nested' positive, closes]
          rfl
        have inside' := innerLength?_lt shifted
        rw [shifted]
        refine ⟨_, rfl, ?_⟩
        simp only [Function.comp_apply] at inside ⊢
        rw [List.length_take, List.length_take, Nat.min_eq_left (Nat.le_of_lt inside),
          Nat.min_eq_left (Nat.le_of_lt inside')]
        omega

/-- A bracket encloses a place of a text: its region spans the place, and some scan of the text
reaches both outside strings. It may start at the front of the text or at the bracket itself.
-/
structure Encloses (src : Bytes) (extent : Extent) (pos : Nat) : Prop where
  region : extract src extent.opening = .ok extent
  before : extent.opening < pos
  behind : pos < extent.closing
  outside
    : ∃ base ≤ extent.opening,
        QuoteState.outside.after ((src.take extent.opening).drop base) = .outside
        ∧ QuoteState.outside.after ((src.take pos).drop base) = .outside

/-- An enclosing bracket stands in front of the bytes up to the place. -/
theorem Encloses.take_drop {src : Bytes} {extent : Extent} {pos : Nat}
    (h : Encloses src extent pos) (inside : pos ≤ src.length)
    : ∃ c closer,
        closerOf? c = some closer
        ∧ (src.take pos).drop extent.opening = c :: (src.take pos).drop (extent.opening + 1) := by
  obtain ⟨region, -, -⟩ := extract_eq_ok_iff.mp h.region
  have before := h.before
  have bound : extent.opening < (src.take pos).length := by
    rw [List.length_take]
    omega
  have parts := List.drop_eq_getElem_cons bound
  rw [← Bytes.slice_append_drop src (Nat.le_of_lt before), parts, List.cons_append,
    innerOf] at region
  split at region
  · cases region
  · rename_i closer family
    exact ⟨_, closer, family, parts⟩

/-- Between a bracket and a place that it encloses no string is left open.
Witness: the bracket stands outside strings and opens none.
-/
theorem Encloses.outside_between {src : Bytes} {extent : Extent} {pos : Nat}
    (h : Encloses src extent pos) (inside : pos ≤ src.length)
    : QuoteState.outside.after ((src.take pos).drop (extent.opening + 1)) = .outside := by
  obtain ⟨base, order, atBracket, atPos⟩ := h.outside
  obtain ⟨c, closer, family, parts⟩ := h.take_drop inside
  have plain : QuoteState.outside.next c = .outside := by
    rcases closerOf?_eq_some_iff.mp family with ⟨rfl, -⟩ | ⟨rfl, -⟩ | ⟨rfl, -⟩ <;> rfl
  rw [← Bytes.slice_append_slice src order (Nat.le_of_lt h.before), QuoteState.after_append,
    atBracket, parts, QuoteState.after, List.foldl_cons, plain] at atPos
  exact atPos

/-- A well-nested part of a text may be replaced by another well-nested text: every bracket that
encloses it is still matched, and its match moves by the difference of lengths.
-/
theorem Encloses.replace {src text : Bytes} {extent : Extent} {start finish : Nat}
    (h : Encloses src extent start) (order : start ≤ finish) (inside : finish ≤ src.length)
    (nested : WellNested ((src.take finish).drop start)) (nested' : WellNested text)
    : ∃ shifted,
        extract (src.take start ++ text ++ src.drop finish) extent.opening = .ok shifted
        ∧ shifted.opening = extent.opening
        ∧ shifted.closing + (finish - start) = extent.closing + text.length := by
  obtain ⟨region, -, closing⟩ := extract_eq_ok_iff.mp h.region
  obtain ⟨c, closer, family, parts⟩ := h.take_drop (Nat.le_trans order inside)
  have outside := h.outside_between (Nat.le_trans order inside)
  have before := h.before
  have behind := h.behind
  have drop_start (rest : Bytes) : (src.take start ++ rest).drop extent.opening
      = c :: ((src.take start).drop (extent.opening + 1) ++ rest) := by
    rw [List.drop_append_of_le_length (by rw [List.length_take]; omega), parts, List.cons_append]
  have source : src.drop extent.opening
      = c :: ((src.take start).drop (extent.opening + 1)
          ++ ((src.take finish).drop start ++ src.drop finish)) := by
    rw [Bytes.slice_append_drop src order, ← drop_start, List.take_append_drop]
  rw [source] at region
  obtain ⟨inner, region', length⟩ := innerOf_replace outside nested nested' region (by
    rw [List.length_drop, List.length_take]
    omega)
  rw [← drop_start, ← List.append_assoc] at region'
  refine ⟨⟨inner, extent.opening, extent.opening + 1 + inner.length⟩,
    extract_eq_ok_iff.mpr ⟨region', rfl, rfl⟩, rfl, ?_⟩
  rw [List.length_drop, List.length_take] at length
  simp only
  omega

end FormMigrate.Extent
