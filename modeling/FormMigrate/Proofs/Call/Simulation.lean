import FormMigrate.Proofs.Call.Course

/-! A sweep edits its text while it scans it; what it makes of the text is nevertheless what the
course over the unchanged source says.
-/

namespace FormMigrate

--------------------------------------------------------------------------------
-- What a pass must promise
--------------------------------------------------------------------------------

/-- A text that starts unlike a call. -/
def Fresh (text : Bytes) : Prop := (text.head?.any fun c => c.lower != 0x66) = true

/-- A text that ends in a parenthesis, as a call does. -/
def Closed (text : Bytes) : Prop := text.getLast? = some 0x29

instance (text : Bytes) : Decidable (Fresh text) :=
  inferInstanceAs (Decidable ((text.head?.any fun c => c.lower != 0x66) = true))

instance (text : Bytes) : Decidable (Closed text) :=
  inferInstanceAs (Decidable (text.getLast? = some 0x29))

/-- What makes the edits of a pass harmless to its own scan: its marker does not overlap with
itself and has only letters and colons, and a replacement ends as the call does. It does not start
as the call does, so that it cannot be mistaken for the text it replaces.
-/
structure Pass.Regular (pass : Pass) : Prop where
  unbordered : Bytes.Unbordered (Bytes.lowerAscii pass.marker)
  worded : pass.marker.all (fun c => c.isLetter || c == 0x3a) = true
  fresh
    : ∀ inner text,
        (pass.build ⟨pass.keyword, inner⟩).replacement = some text → Fresh text
  closed
    : ∀ inner text,
        (pass.build ⟨pass.keyword, inner⟩).replacement = some text → Closed text

--------------------------------------------------------------------------------
-- Sweeps against the source
--------------------------------------------------------------------------------

/-- A sweep stands at an offset of a source: behind what it has settled, its text is the source
from that offset on. The byte before the scan may have changed, but is part of a name in both
texts or in neither.
-/
structure Sweep.At (src : Bytes) (offset : Nat) (done : Bytes) (sweep : Sweep) : Prop where
  text : sweep.text = done ++ src.drop offset
  next : sweep.next = done.length
  bound : offset ≤ src.length
  behind : sweep.followsName sweep.next = Sweep.followsName ⟨src, 0, []⟩ offset

namespace Sweep.At

variable {src done : Bytes} {offset : Nat} {sweep : Sweep}

theorem start (src : Bytes) : Sweep.At src 0 [] ⟨src, 0, []⟩ :=
  ⟨rfl, rfl, Nat.zero_le _, rfl⟩

theorem drop_text (here : sweep.At src offset done) (k : Nat)
    : sweep.text.drop (sweep.next + k) = src.drop (offset + k) := by
  rw [here.text, here.next, List.drop_append, List.drop_drop]
  simp

theorem take_text (here : sweep.At src offset done) (k : Nat)
    : sweep.text.take (sweep.next + k) = done ++ (src.drop offset).take k := by
  rw [here.text, here.next, List.take_append]
  simp

theorem followsName_add (here : sweep.At src offset done) (k : Nat)
    : sweep.followsName (sweep.next + k) = Sweep.followsName ⟨src, 0, []⟩ (offset + k) := by
  cases k with
  | zero => exact here.behind
  | succ k =>
      have same : sweep.text[sweep.next + k]? = src[offset + k]? := by
        rw [← List.head?_drop, ← List.head?_drop, here.drop_text]
      simp only [Sweep.followsName, Nat.add_sub_cancel, ← Nat.add_assoc, same,
        Nat.zero_lt_succ, decide_true]

/-- Going on without a change moves the bytes passed over to what is settled. -/
theorem pass_over (here : sweep.At src offset done) (k : Nat) (inside : offset + k ≤ src.length)
    {further : Sweep} (text : further.text = sweep.text) (next : further.next = sweep.next + k)
    : further.At src (offset + k) (done ++ (src.drop offset).take k) := by
  refine ⟨?_, ?_, inside, ?_⟩
  · rw [text, here.text, List.append_assoc, ← List.drop_drop, List.take_append_drop]
  · rw [next, here.next, List.length_append, List.length_take, List.length_drop]
    omega
  · rw [next, ← here.followsName_add k]
    simp only [Sweep.followsName, text]

/-- Parentheses enclose the same text ahead of a sweep as in its source. -/
theorem extract_ok (here : sweep.At src offset done) {m : Nat} {shifted : Extent}
    (extracted : Extent.extract sweep.text ↑(sweep.next + m) = .ok shifted)
    : Extent.extract src ↑(offset + m)
        = .ok ⟨shifted.inner, offset + m, offset + (m + 1 + shifted.inner.length)⟩
      ∧ shifted.closing = sweep.next + (m + 1 + shifted.inner.length) := by
  obtain ⟨inner, -, closing⟩ := Extent.extract_eq_ok_iff.mp extracted
  rw [here.drop_text] at inner
  refine ⟨Extent.extract_eq_ok_iff.mpr ⟨inner, rfl, ?_⟩, ?_⟩
  · simp only [Nat.add_assoc]
  · rw [closing]
    simp only [Nat.add_assoc]

theorem extract_error (here : sweep.At src offset done) {m : Nat} {e : BracketError}
    (extracted : Extent.extract sweep.text ↑(sweep.next + m) = .error e)
    : Extent.extract src ↑(offset + m) = .error e := by
  rw [Extent.extract_eq_error_iff, here.drop_text, ← Extent.extract_eq_error_iff] at extracted
  exact extracted

/-- Records make no difference. -/
theorem remarked (here : sweep.At src offset done) (records : List Record)
    : ({ sweep with records } : Sweep).At src offset done :=
  ⟨here.text, here.next, here.bound, here.behind⟩

end Sweep.At

theorem Byte.parenthesis_isNamePart : Byte.isNamePart 0x29 = false := by decide

/-- What follows a replacement follows no name if the replacement does not end in one. -/
theorem Sweep.followsName_replace {sweep : Sweep} {first last : Nat} {text : Bytes} {c : Byte}
    (inside : first ≤ sweep.text.length) (ends : text.getLast? = some c)
    (unnamed : c.isNamePart = false)
    : (sweep.replace first last text).followsName (sweep.replace first last text).next
      = false := by
  obtain ⟨start, rfl⟩ := List.getLast?_eq_some_iff.mp ends
  have at_end : (sweep.text.take first ++ (start ++ [c]) ++ sweep.text.drop last)[
      first + start.length]? = some c := by
    rw [List.append_assoc, List.getElem?_append_right (by rw [List.length_take]; omega)]
    simp [Nat.min_eq_left inside]
  simp only [Sweep.followsName, Sweep.replace, List.length_append, List.length_singleton,
    ← Nat.add_assoc, Nat.add_sub_cancel, at_end, Option.any_some, unnamed, Bool.and_false]

namespace Sweep.At

variable {src done : Bytes} {offset : Nat} {sweep : Sweep}

theorem take_drop_add (src : Bytes) (offset k n : Nat)
    : (src.drop offset).take (k + n)
      = (src.take (offset + k)).drop offset ++ (src.take (offset + k + n)).drop (offset + k) := by
  rw [List.take_add, List.drop_drop, List.drop_take, List.drop_take, Nat.add_sub_cancel_left,
    Nat.add_sub_cancel_left]

/-- Going on behind a stop that is left as it stands settles what stands before it, and it. -/
theorem keep (here : sweep.At src offset done) (k n : Nat) (inside : offset + k + n ≤ src.length)
    {further : Sweep} (text : further.text = sweep.text) (next : further.next = sweep.next + k + n)
    : further.At src (offset + k + n)
        (done ++ (src.take (offset + k)).drop offset
          ++ (src.take (offset + k + n)).drop (offset + k)) := by
  have moved := here.pass_over (k + n) (by omega) text (by omega)
  rwa [take_drop_add, ← List.append_assoc, ← Nat.add_assoc] at moved

/-- Going on behind what replaces a call settles what stands before the call, and the replacement.
Witness: a replacement ends in a parenthesis as the call does, so that the byte before the scan
is part of a name in neither text.
-/
theorem replace (here : sweep.At src offset done) {k shift : Nat} {text : Bytes}
    (order : k ≤ shift) (close : src[offset + shift]? = some 0x29) (last : Closed text)
    : (sweep.replace (sweep.next + k) (sweep.next + shift + 1) text).At src (offset + shift + 1)
        (done ++ (src.take (offset + k)).drop offset ++ text) := by
  have inside := (List.getElem?_eq_some_iff.mp close).1
  have settled := here.take_text k
  have rest := here.drop_text (shift + 1)
  refine ⟨?_, ?_, inside, ?_⟩
  · simp only [Sweep.replace]
    rw [settled, Nat.add_assoc sweep.next, rest, List.drop_take, Nat.add_sub_cancel_left,
      Nat.add_assoc]
  · simp only [Sweep.replace, List.length_append, List.drop_take, List.length_take,
      List.length_drop, here.next]
    omega
  · have before : Sweep.followsName ⟨src, 0, []⟩ (offset + shift + 1) = false := by
      simp only [Sweep.followsName, Nat.add_sub_cancel, close, Option.any_some,
        Byte.parenthesis_isNamePart, Bool.and_false]
    rw [before]
    refine Sweep.followsName_replace ?_ last Byte.parenthesis_isNamePart
    have length := congrArg List.length here.text
    simp only [List.length_append, List.length_drop] at length
    rw [here.next]
    omega

end Sweep.At

--------------------------------------------------------------------------------
-- Markers
--------------------------------------------------------------------------------

namespace Pass

variable {pass : Pass} {src done : Bytes} {offset : Nat} {sweep : Sweep}

theorem free_of_find?_eq_none (here : sweep.At src offset done)
    (h : sweep.find? pass.marker = none) (pos opening : Nat) (behind : offset ≤ pos)
    : ¬ pass.Occurrence src pos opening := by
  intro occurrence
  have absent := Bytes.not_startsWithFold_of_indexFold?_eq_none (Option.map_eq_none_iff.mp h)
    (pos - offset)
  have marked := (occurrence_iff.mp occurrence).1
  rw [List.drop_drop, here.drop_text, Nat.add_sub_cancel' behind, marked] at absent
  cases absent

/-- The marker that the sweep finds stands in the source, and no occurrence stands before it. -/
theorem marked_of_find?_eq_some (here : sweep.At src offset done) {pos : Nat}
    (h : sweep.find? pass.marker = some pos)
    : ∃ k,
        pos = sweep.next + k
        ∧ Bytes.startsWithFold pass.marker (src.drop (offset + k)) = true
        ∧ offset + k + pass.marker.length ≤ src.length
        ∧ ∀ p opening, offset ≤ p → p < offset + k → ¬ pass.Occurrence src p opening := by
  obtain ⟨k, found, rfl⟩ := Option.map_eq_some_iff.mp h
  have inside := Bytes.indexFold?_add_length_le found
  obtain ⟨marked, first⟩ := Bytes.indexFold?_spec found
  have rest := here.drop_text 0
  simp only [Nat.add_zero] at rest
  rw [rest, List.length_drop] at inside
  rw [rest, List.drop_drop] at marked
  have bound := here.bound
  refine ⟨k, rfl, marked, by omega, ?_⟩
  intro p opening behind before occurrence
  have absent := first (p - offset) (by omega)
  have present := (occurrence_iff.mp occurrence).1
  rw [rest, List.drop_drop, Nat.add_sub_cancel' behind, present] at absent
  cases absent

theorem opening?_of_at (here : sweep.At src offset done) (k : Nat)
    : CallSite.opening? sweep.text (sweep.next + k)
      = (CallSite.gap? CallSite.maxGap (src.drop (offset + k))).map (sweep.next + k + ·) := by
  rw [CallSite.opening?, here.drop_text]

/-- A marker that is no occurrence keeps further ones away from its bytes.
Witness: two markers would overlap.
-/
theorem free_of_marker (regular : pass.Regular) {start : Nat}
    (marked : Bytes.startsWithFold pass.marker (src.drop start) = true)
    (skipped : ∀ opening, ¬ pass.Occurrence src start opening) (pos opening : Nat)
    (behind : start ≤ pos) (before : pos < start + pass.marker.length)
    : ¬ pass.Occurrence src pos opening := by
  intro occurrence
  rcases Nat.eq_or_lt_of_le behind with rfl | later
  · exact skipped opening occurrence
  · refine regular.unbordered.not_overlap (k := pos - start) (by omega) ?_
      (Bytes.startsWithFold_iff.mp marked) ?_
    · rw [Bytes.length_lowerAscii]
      omega
    · rw [← Bytes.lowerAscii_drop, List.drop_drop, Nat.add_sub_cancel' behind]
      exact occurrence.marked

--------------------------------------------------------------------------------
-- One step
--------------------------------------------------------------------------------

/-- What a step does at a marker that is no occurrence: it goes on behind the marker. -/
theorem skip_at (regular : pass.Regular) (here : sweep.At src offset done) {k : Nat}
    (marked : Bytes.startsWithFold pass.marker (src.drop (offset + k)) = true)
    (inside : offset + k + pass.marker.length ≤ src.length)
    (first : ∀ p opening, offset ≤ p → p < offset + k → ¬ pass.Occurrence src p opening)
    (skipped : ∀ opening, ¬ pass.Occurrence src (offset + k) opening)
    : (∀ p opening,
          offset ≤ p
          → p < offset + (k + pass.marker.length)
          → ¬ pass.Occurrence src p opening)
      ∧ (sweep.resume (sweep.next + k + pass.marker.length)).At src
          (offset + (k + pass.marker.length))
          (done ++ (src.drop offset).take (k + pass.marker.length)) := by
  constructor
  · intro p opening behind before
    rcases Nat.lt_or_ge p (offset + k) with passed | beyond
    · exact first p opening behind passed
    · exact free_of_marker regular marked skipped p opening beyond (by omega)
  · exact here.pass_over _ (by omega) rfl (Nat.add_assoc _ _ _)

/-- What a step does at a call that is never closed: it goes on behind the marker, with a record. -/
theorem unbalanced_at (here : sweep.At src offset done) {k opening : Nat} (file : Bytes)
    (first : ∀ p opening, offset ≤ p → p < offset + k → ¬ pass.Occurrence src p opening)
    (occurrence : pass.Occurrence src (offset + k) opening)
    (open_ : Extent.extract src opening = .error .unbalanced)
    : ∃ stop,
        pass.StopsAt src offset done.length stop
        ∧ ((sweep.remark file (sweep.next + k)
              (pass.unbalancedNote (sweep.text.drop (sweep.next + k)))).resume
            (sweep.next + k + pass.marker.length)).At src stop.finish
              (done ++ (src.take stop.start).drop offset ++ stop.output src)
        ∧ (sweep.remark file (sweep.next + k)
              (pass.unbalancedNote (sweep.text.drop (sweep.next + k)))).records
            = sweep.records ++ stop.records file sweep.text := by
  have inside := Nat.le_of_lt (Nat.lt_of_le_of_lt occurrence.behind occurrence.opening_lt)
  refine ⟨⟨offset + k, done.length + k, opening, none, offset + k + pass.marker.length,
    .decline (pass.unbalancedNote (src.drop (offset + k)))⟩,
    ⟨Nat.le_add_right _ _, first, occurrence, ⟨open_, rfl, rfl⟩, by simp⟩, ?_, ?_⟩
  · exact here.keep k pass.marker.length (by omega) rfl rfl
  · rw [here.drop_text, here.next]
    rfl

/-- What a step does at a closed call: it goes on behind the call, or behind what replaces it. -/
theorem answer_at (regular : pass.Regular) (here : sweep.At src offset done)
    {k opening shift : Nat} {extent shifted : Extent} (file : Bytes)
    (first : ∀ p opening, offset ≤ p → p < offset + k → ¬ pass.Occurrence src p opening)
    (occurrence : pass.Occurrence src (offset + k) opening)
    (closed : Extent.extract src opening = .ok extent)
    (inner : shifted.inner = extent.inner)
    (behind : extent.closing = offset + shift) (closing : shifted.closing = sweep.next + shift)
    : ∃ stop,
        pass.StopsAt src offset done.length stop
        ∧ (pass.answer file (sweep.next + k) shifted sweep).At src stop.finish
            (done ++ (src.take stop.start).drop offset ++ stop.output src)
        ∧ (pass.answer file (sweep.next + k) shifted sweep).records
            = sweep.records ++ stop.records file sweep.text := by
  have close := occurrence.closing closed
  have order := occurrence.behind
  rw [behind] at close
  refine ⟨⟨offset + k, done.length + k, opening, some extent, extent.closing + 1,
    pass.build ⟨pass.keyword, extent.inner⟩⟩,
    ⟨Nat.le_add_right _ _, first, occurrence, ⟨closed, rfl, rfl⟩, by simp⟩, ?_, ?_⟩
  · simp only [answer, inner, foldl_remark, Stop.output, behind, closing]
    cases replacement : (pass.build ⟨pass.keyword, extent.inner⟩).replacement with
    | none =>
        obtain ⟨n, ends⟩ : ∃ n, offset + shift + 1 = offset + k + n :=
          ⟨shift + 1 - k, by omega⟩
        rw [Option.getD_none, ends]
        exact here.keep k n (by omega) rfl (by simp only [Sweep.resume]; omega)
    | some text =>
        exact (here.remarked _).replace (by omega) close.2.2
          (regular.closed extent.inner text replacement)
  · simp only [answer, foldl_remark, inner, Stop.records, here.next]
    cases (pass.build ⟨pass.keyword, extent.inner⟩).replacement <;> rfl

/-- What a step does: it passes over source bytes without an occurrence, or deals with the next
stop of the course.
Witness: the scan ahead reads the source, so each test of the step has the answer that the
description of occurrences gives.
-/
theorem step_at (regular : pass.Regular) (here : sweep.At src offset done) {file : Bytes}
    {further : Sweep} (h : pass.step file sweep = some further)
    : (∃ n,
        (∀ p opening, offset ≤ p → p < offset + n → ¬ pass.Occurrence src p opening)
        ∧ further.At src (offset + n) (done ++ (src.drop offset).take n)
        ∧ further.records = sweep.records)
      ∨ ∃ stop,
          pass.StopsAt src offset done.length stop
          ∧ further.At src stop.finish
              (done ++ (src.take stop.start).drop offset ++ stop.output src)
          ∧ further.records = sweep.records ++ stop.records file sweep.text := by
  obtain ⟨pos, found, rfl⟩ := Option.map_eq_some_iff.mp h
  obtain ⟨k, rfl, marked, inside, first⟩ := marked_of_find?_eq_some here found
  have skip (skipped : ∀ opening, ¬ pass.Occurrence src (offset + k) opening)
      : ∃ n,
          (∀ p opening, offset ≤ p → p < offset + n → ¬ pass.Occurrence src p opening)
          ∧ (sweep.resume (sweep.next + k + pass.marker.length)).At src (offset + n)
              (done ++ (src.drop offset).take n)
          ∧ (sweep.resume (sweep.next + k + pass.marker.length)).records = sweep.records :=
    ⟨_, (skip_at regular here marked inside first skipped).1,
      (skip_at regular here marked inside first skipped).2, rfl⟩
  have opens := opening?_of_at here (k + pass.marker.length)
  simp only [← Nat.add_assoc] at opens
  simp only [visit]
  -- Each of the three tests reads the source: the byte before, the gap, and the parentheses.
  cases named : sweep.followsName (sweep.next + k) with
  | true =>
      refine .inl (skip fun opening occurrence => ?_)
      have unnamed := (occurrence_iff.mp occurrence).2.1
      rw [← here.followsName_add, named] at unnamed
      cases unnamed
  | false =>
      cases gap : CallSite.gap? CallSite.maxGap (src.drop (offset + k + pass.marker.length)) with
      | none =>
          rw [gap, Option.map_none] at opens
          simp only [opens, Bool.false_eq_true, ↓reduceIte]
          refine .inl (skip fun opening occurrence => ?_)
          have opened := (occurrence_iff.mp occurrence).2.2
          rw [CallSite.opening?, gap] at opened
          cases opened
      | some n =>
          rw [gap, Option.map_some] at opens
          simp only [opens, Bool.false_eq_true, ↓reduceIte]
          have occurrence
              : pass.Occurrence src (offset + k) (offset + k + pass.marker.length + n) := by
            refine occurrence_iff.mpr ⟨marked, ?_, ?_⟩
            · rw [← here.followsName_add, named]
            · rw [CallSite.opening?, gap, Option.map_some]
          right
          cases extracted
              : Extent.extract sweep.text ↑(sweep.next + k + pass.marker.length + n) with
          | error e =>
              have failed := here.extract_error (m := k + pass.marker.length + n)
                (by simpa only [Nat.add_assoc] using extracted)
              simp only [← Nat.add_assoc] at failed
              cases occurrence.extract_error failed
              exact unbalanced_at here file first occurrence failed
          | ok shifted =>
              obtain ⟨closed, closing⟩ := here.extract_ok (m := k + pass.marker.length + n)
                (by simpa only [Nat.add_assoc] using extracted)
              rw [← Nat.add_assoc, ← Nat.add_assoc] at closed
              exact answer_at regular here file first occurrence closed rfl rfl closing

--------------------------------------------------------------------------------
-- Whole sweeps
--------------------------------------------------------------------------------

/-- The records of a stop depend on the result only up to where its output starts. -/
theorem records_congr {file out other : Bytes} {stop : Stop}
    (same : out.take stop.target = other.take stop.target)
    : stop.records file out = stop.records file other := by
  simp only [Stop.records, Record.ofOffset, Bytes.lineAt, Int.toNat_natCast, same]

/-- A sweep that stands in a source runs the course of the rest: it adds to what is settled the
spliced text, and to its records those of the stops, at their places in the result.
Witness: induction on the run. A byte passed over widens the course of the rest, a stop is put in
front of it; no later step changes what is settled.
-/
theorem run_at (regular : pass.Regular) (file : Bytes) (here : sweep.At src offset done)
    : ∃ stops,
        pass.Course src offset done.length stops
        ∧ (pass.run file sweep).text
            = done ++ Patch.splice src offset (stops.map (Stop.patch src))
        ∧ (pass.run file sweep).records
            = sweep.records ++ stops.flatMap (Stop.records file (pass.run file sweep).text) := by
  fun_induction Pass.run pass file sweep generalizing offset done with
  | case1 sweep last =>
      have none := Option.map_eq_none_iff.mp last
      exact ⟨[], .finished (free_of_find?_eq_none here none), here.text, by simp⟩
  | case2 sweep further next _ ih =>
      rcases step_at regular here next with ⟨n, free, there, same⟩ | ⟨stop, stops, there, added⟩
      · obtain ⟨stops, course, text, records⟩ := ih there
        have inside := there.bound
        have length : (done ++ (src.drop offset).take n).length
            = done.length + (offset + n - offset) := by
          simp only [List.length_append, List.length_take, List.length_drop]
          omega
        rw [length] at course
        refine ⟨stops, course.widen (Nat.le_add_right _ _) free, ?_, by rw [records, same]⟩
        have later : ∀ patch ∈ (stops.map (Stop.patch src)).head?, offset + n ≤ patch.start := by
          intro patch first
          obtain ⟨stop, member, rfl⟩ := List.mem_map.mp (List.mem_of_mem_head? first)
          exact course.behind stop member
        rw [text, Patch.splice_widen (Nat.le_add_right _ _) later, List.drop_take,
          Nat.add_sub_cancel_left, List.append_assoc]
      · obtain ⟨rest, course, text, records⟩ := ih there
        have bounds := stops.finish_bounds
        have behind := stops.behind
        have settled : (done ++ (src.take stop.start).drop offset).length = stop.target := by
          rw [stops.placed, List.length_append, List.length_drop, List.length_take]
          omega
        rw [List.length_append, settled] at course
        refine ⟨stop :: rest, .stop stops course, ?_, ?_⟩
        · rw [text]
          simp only [List.map_cons, Patch.splice, Stop.patch, List.append_assoc]
        · rw [records, added, List.flatMap_cons, List.append_assoc]
          congr 2
          -- The step took its offsets from a text that has changed since, but only behind them.
          refine records_congr ?_
          have before : sweep.text.take stop.target
              = done ++ (src.take stop.start).drop offset := by
            have taken := here.take_text (stop.start - offset)
            rwa [here.next, ← stops.placed, ← List.drop_take] at taken
          rw [before, text, ← settled]
          simp only [List.append_assoc]
          rw [← List.append_assoc, List.take_left]

/-- A sweep over a source runs its course. -/
theorem sweep_course (regular : pass.Regular) (file src : Bytes)
    : ∃ stops,
        pass.Course src 0 0 stops
        ∧ (pass.sweep file src).text = Patch.splice src 0 (stops.map (Stop.patch src))
        ∧ (pass.sweep file src).records
            = stops.flatMap (Stop.records file (pass.sweep file src).text) := by
  simpa [sweep] using run_at regular file (Sweep.At.start src)

end Pass

end FormMigrate
