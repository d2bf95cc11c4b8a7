import FormMigrate.Proofs.Call.Occurrence
import FormMigrate.Proofs.Text.Slice

/-! The course of a pass over a source text that never changes: which occurrences it stops at, what
it answers there, and the text and the records that follow from the answers.
-/

namespace FormMigrate

--------------------------------------------------------------------------------
-- Patches
--------------------------------------------------------------------------------

/-- New text for the bytes of a source from one offset up to another. -/
structure Patch where
  start : Nat
  finish : Nat
  text : Bytes
  deriving DecidableEq, Repr

/-- The source from an offset on, with the text of each patch in its place. -/
def Patch.splice (src : Bytes) : (offset : Nat) → List Patch → Bytes
  | offset, [] => src.drop offset
  | offset, patch :: rest =>
      (src.take patch.start).drop offset ++ patch.text ++ splice src patch.finish rest

/-- Bytes before the first patch stand in front unchanged. -/
theorem Patch.splice_widen {src : Bytes} {offset further : Nat} {patches : List Patch}
    (order : offset ≤ further) (behind : ∀ patch ∈ patches.head?, further ≤ patch.start)
    : splice src offset patches
      = (src.take further).drop offset ++ splice src further patches := by
  cases patches with
  | nil => exact (Bytes.slice_append_drop src order).symm
  | cons patch rest =>
      have later := behind patch (by simp)
      simp only [splice, ← Bytes.slice_append_slice src order later, List.append_assoc]

--------------------------------------------------------------------------------
-- Stops
--------------------------------------------------------------------------------

/-- An occurrence that a pass stops at: where its marker starts in the source and where its output
starts in the result, its parenthesis, the region that encloses its arguments unless it is never
closed, the offset where the scan goes on, and the answer.
-/
@[ext]
structure Stop where
  start : Nat
  target : Nat
  opening : Nat
  extent : Option Extent
  finish : Nat
  reply : Reply

/-- The text that stands for a stop in the result. -/
def Stop.output (src : Bytes) (stop : Stop) : Bytes :=
  stop.reply.replacement.getD ((src.take stop.finish).drop stop.start)

/-- A stop as an edit of the source, which changes nothing where the call is left alone. -/
def Stop.patch (src : Bytes) (stop : Stop) : Patch := ⟨stop.start, stop.finish, stop.output src⟩

/-- The records of a stop, at its place in the result. -/
def Stop.records (file out : Bytes) (stop : Stop) : List Record :=
  stop.reply.notes.map fun note =>
    Record.ofOffset file out stop.target note.snippet note.reason

namespace Pass

/-- What a pass must answer at a stop, from the source alone. A call that is never closed counts
as declined, and the scan goes on right behind its marker.
-/
def Answers (pass : Pass) (src : Bytes) (stop : Stop) : Prop :=
  match stop.extent with
  | none =>
      Extent.extract src stop.opening = .error .unbalanced
      ∧ stop.finish = stop.start + pass.marker.length
      ∧ stop.reply = .decline (pass.unbalancedNote (src.drop stop.start))
  | some extent =>
      Extent.extract src stop.opening = .ok extent
      ∧ stop.finish = extent.closing + 1
      ∧ stop.reply = pass.build ⟨pass.keyword, extent.inner⟩

/-- A pass that scans the source from an offset on stops at its first occurrence there. -/
structure StopsAt (pass : Pass) (src : Bytes) (offset target : Nat) (stop : Stop) : Prop where
  behind : offset ≤ stop.start
  first
    : ∀ pos opening,
        offset ≤ pos → pos < stop.start → ¬ pass.Occurrence src pos opening
  occurrence : pass.Occurrence src stop.start stop.opening
  answers : pass.Answers src stop
  placed : stop.target = target + (stop.start - offset)

/-- The stops of a pass from a source offset on, whose output starts at a target offset. -/
inductive Course (pass : Pass) (src : Bytes) : (offset target : Nat) → List Stop → Prop
  | finished {offset target}
    (free : ∀ pos opening, offset ≤ pos → ¬ pass.Occurrence src pos opening)
    : Course pass src offset target []
  | stop {offset target stop rest} (here : pass.StopsAt src offset target stop)
    (further : Course pass src stop.finish (stop.target + (stop.output src).length) rest)
    : Course pass src offset target (stop :: rest)

--------------------------------------------------------------------------------
-- Bounds
--------------------------------------------------------------------------------

/-- A closed call spans its marker, its gap, its parentheses and what they enclose. -/
theorem Occurrence.closing {pass : Pass} {src : Bytes} {start opening : Nat} {extent : Extent}
    (h : pass.Occurrence src start opening) (extracted : Extent.extract src opening = .ok extent)
    : opening < extent.closing
      ∧ extent.closing < src.length
      ∧ src[extent.closing]? = some 0x29 := by
  have bounds := Extent.closing_lt_of_extract extracted
  refine ⟨bounds.1, bounds.2, ?_⟩
  obtain ⟨inside, -, closing⟩ := Extent.extract_eq_ok_iff.mp extracted
  obtain ⟨bound, opens⟩ := List.getElem?_eq_some_iff.mp h.parenthesis
  rw [List.drop_eq_getElem_cons bound, opens] at inside
  obtain ⟨rest, tail⟩ := Extent.innerOf_parenthesis inside
  calc src[extent.closing]?
      = (src.drop (opening + 1))[extent.inner.length]? := by
        rw [List.getElem?_drop, closing]
    _ = some 0x29 := by simp [tail]

theorem Occurrence.extract_error {pass : Pass} {src : Bytes} {start opening : Nat}
    {e : BracketError} (h : pass.Occurrence src start opening)
    (failed : Extent.extract src opening = .error e)
    : e = .unbalanced := by
  have inside := Extent.extract_eq_error_iff.mp failed
  obtain ⟨bound, opens⟩ := List.getElem?_eq_some_iff.mp h.parenthesis
  rw [List.drop_eq_getElem_cons bound, opens] at inside
  exact Extent.innerOf_parenthesis_error inside

/-- The scan goes on behind the marker of a stop, inside the text. -/
theorem StopsAt.finish_bounds {pass : Pass} {src : Bytes} {offset target : Nat} {stop : Stop}
    (h : pass.StopsAt src offset target stop)
    : stop.start + pass.marker.length ≤ stop.finish ∧ stop.finish ≤ src.length := by
  have behind := h.occurrence.behind
  have inside := h.occurrence.opening_lt
  have answers := h.answers
  unfold Answers at answers
  split at answers
  · omega
  · have := h.occurrence.closing answers.1
    omega

theorem StopsAt.start_lt_finish {pass : Pass} {src : Bytes} {offset target : Nat} {stop : Stop}
    (h : pass.StopsAt src offset target stop)
    : stop.start < stop.finish := by
  have := h.finish_bounds.1
  have := pass.marker_length_pos
  omega

--------------------------------------------------------------------------------
-- Moving the start of a course
--------------------------------------------------------------------------------

/-- A course may start further to the left where no occurrence is passed over. -/
theorem Course.widen {pass : Pass} {src : Bytes} {offset further target : Nat} {stops : List Stop}
    (course : pass.Course src further (target + (further - offset)) stops)
    (order : offset ≤ further)
    (free : ∀ pos opening, offset ≤ pos → pos < further → ¬ pass.Occurrence src pos opening)
    : pass.Course src offset target stops := by
  cases course with
  | finished none =>
      refine .finished fun pos opening behind => ?_
      rcases Nat.lt_or_ge pos further with before | beyond
      · exact free pos opening behind before
      · exact none pos opening beyond
  | @stop _ _ stop rest here tail =>
      have behind := here.behind
      have placed := here.placed
      refine .stop ⟨by omega, ?_, here.occurrence, here.answers, by omega⟩ tail
      intro pos opening behind before
      rcases Nat.lt_or_ge pos further with passed | beyond
      · exact free pos opening behind passed
      · exact here.first pos opening beyond before

--------------------------------------------------------------------------------
-- The stops of a course
--------------------------------------------------------------------------------

/-- Every stop of a course is a stop of the pass, by induction on the course. -/
theorem Course.stopsAt {pass : Pass} {src : Bytes} {offset target : Nat} {stops : List Stop}
    (course : pass.Course src offset target stops)
    : ∀ stop ∈ stops, ∃ offset' target', pass.StopsAt src offset' target' stop := by
  induction course with
  | finished => simp
  | stop here _ ih =>
      intro stop member
      rcases List.mem_cons.mp member with rfl | later
      · exact ⟨_, _, here⟩
      · exact ih stop later

theorem Course.behind {pass : Pass} {src : Bytes} {offset target : Nat} {stops : List Stop}
    (course : pass.Course src offset target stops)
    : ∀ stop ∈ stops, offset ≤ stop.start := by
  induction course with
  | finished => simp
  | stop here _ ih =>
      intro stop member
      have behind := here.behind
      have forward := here.start_lt_finish
      rcases List.mem_cons.mp member with rfl | later
      · exact behind
      · have := ih stop later
        omega

/-- Each stop ends before the next one starts. -/
theorem Course.ordered {pass : Pass} {src : Bytes} {offset target : Nat} {stops : List Stop}
    (course : pass.Course src offset target stops)
    : stops.Pairwise fun first second => first.finish ≤ second.start := by
  induction course with
  | finished => exact .nil
  | stop _ further ih => exact .cons further.behind ih

/-- An occurrence has one answer.
Witness: extraction decides whether it is closed, and each case spells the answer out.
-/
theorem Answers.unique {pass : Pass} {src : Bytes} {stop other : Stop}
    (start : stop.start = other.start) (target : stop.target = other.target)
    (opening : stop.opening = other.opening)
    (h : pass.Answers src stop) (h' : pass.Answers src other)
    : stop = other := by
  unfold Answers at h h'
  cases extent : stop.extent with
  | none =>
      cases extent' : other.extent with
      | none =>
          rw [extent] at h
          rw [extent'] at h'
          refine Stop.ext start target opening (extent.trans extent'.symm) ?_ ?_
          · rw [h.2.1, h'.2.1, start]
          · rw [h.2.2, h'.2.2, start]
      | some region =>
          rw [extent] at h
          rw [extent', ← opening] at h'
          exact nomatch h.1.symm.trans h'.1
  | some region =>
      cases extent' : other.extent with
      | none =>
          rw [extent] at h
          rw [extent', ← opening] at h'
          exact nomatch h.1.symm.trans h'.1
      | some region' =>
          rw [extent] at h
          rw [extent', ← opening] at h'
          have same : region = region' := by simpa using h.1.symm.trans h'.1
          subst same
          refine Stop.ext start target opening (extent.trans extent'.symm) ?_ ?_
          · rw [h.2.1, h'.2.1]
          · rw [h.2.2, h'.2.2]

/-- A source offset has one next stop.
Witness: each of two stops is the first occurrence, so they start together.
-/
theorem StopsAt.unique {pass : Pass} {src : Bytes} {offset target : Nat} {stop other : Stop}
    (h : pass.StopsAt src offset target stop) (h' : pass.StopsAt src offset target other)
    : stop = other := by
  have start : stop.start = other.start := by
    by_contra apart
    rcases Nat.lt_or_gt_of_ne apart with before | before
    · exact h'.first _ _ h.behind before h.occurrence
    · exact h.first _ _ h'.behind before h'.occurrence
  refine Answers.unique start ?_ ?_ h.answers h'.answers
  · rw [h.placed, h'.placed, start]
  · exact (start ▸ h.occurrence).opening_unique h'.occurrence

/-- A source offset has one course, by induction on either of two. -/
theorem Course.unique {pass : Pass} {src : Bytes} {offset target : Nat} {stops others : List Stop}
    (course : pass.Course src offset target stops) (other : pass.Course src offset target others)
    : stops = others := by
  induction course generalizing others with
  | finished none =>
      cases other with
      | finished => rfl
      | stop here => exact (none _ _ here.behind here.occurrence).elim
  | stop here tail ih =>
      cases other with
      | finished none => exact (none _ _ here.behind here.occurrence).elim
      | stop here' tail' =>
          obtain rfl := here.unique here'
          rw [ih tail']

end Pass

end FormMigrate
