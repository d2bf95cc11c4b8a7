import FormMigrate.Proofs.Scan.Segments

/-! Sealed texts: well nested and without a top-level comma, so that cutting an argument list takes
each of them as a whole.
-/

namespace FormMigrate

--------------------------------------------------------------------------------
-- Cutting behind a text
--------------------------------------------------------------------------------

namespace Argument

/-- Puts a text in front of the first segment. -/
def glue (s : Bytes) : List Bytes → List Bytes
  | [] => [s]
  | segment :: others => (s ++ segment) :: others

theorem consHead_eq_glue (c : Byte) (segments : List Bytes)
    : consHead c segments = glue [c] segments := by
  cases segments <;> rfl

theorem glue_glue (s t : Bytes) (segments : List Bytes)
    : glue s (glue t segments) = glue (s ++ t) segments := by
  cases segments with
  | nil => rfl
  | cons segment others => simp only [glue, List.append_assoc]

theorem segmentsFrom_ne_nil (q : QuoteState) (depth : Int) (s : Bytes)
    : segmentsFrom q depth s ≠ [] := by
  fun_cases segmentsFrom q depth s with
  | case1 => simp
  | case2 | case4 =>
      rw [consHead_eq_glue]
      cases segmentsFrom _ _ _ <;> simp [glue]
  | case3 => simp

theorem glue_nil {segments : List Bytes} (some : segments ≠ []) : glue [] segments = segments := by
  cases segments with
  | nil => exact (some rfl).elim
  | cons => rfl

/-- A byte of a string belongs to the segment that it stands in. -/
theorem segmentsFrom_inert {q : QuoteState} {c : Byte} (inert : q.isInert c = true) (depth : Int)
    (rest : Bytes)
    : segmentsFrom q depth (c :: rest) = glue [c] (segmentsFrom (q.next c) depth rest) := by
  rw [segmentsFrom, if_pos inert, consHead_eq_glue]

/-- Any byte but a top-level comma belongs to the segment that it stands in. -/
theorem segmentsFrom_active {q : QuoteState} {c : Byte} (active : q.isInert c = false) {depth : Int}
    (held : c ≠ 0x2c ∨ depth ≠ 0) (rest : Bytes)
    : segmentsFrom q depth (c :: rest)
      = glue [c] (segmentsFrom (q.next c) (depth + depthChange c) rest) := by
  have uncut : ¬ (c == 0x2c && depth == 0) = true := by
    simp only [Bool.and_eq_true, beq_iff_eq, not_and_or]
    exact held
  rw [segmentsFrom, if_neg (by simp [active]), if_neg uncut, consHead_eq_glue]

/-- Inside a bracket nothing is cut.
Witness: induction on the text. The depth is the number of brackets that the scan awaits, and at
least one more around them.
-/
theorem segmentsFrom_after {nesting next : Nesting} {s : Bytes} (h : nesting.after? s = some next)
    {depth : Nat} (positive : 0 < depth) (t : Bytes)
    : segmentsFrom nesting.quotes (depth + nesting.awaited.length) (s ++ t)
      = glue s (segmentsFrom next.quotes (depth + next.awaited.length) t) := by
  induction s generalizing nesting with
  | nil =>
      cases h
      rw [glue_nil (segmentsFrom_ne_nil _ _ _), List.nil_append]
  | cons c rest ih =>
      obtain ⟨mid, step, later⟩ := Option.bind_eq_some_iff.mp h
      have further := ih later
      obtain ⟨q, awaited⟩ := nesting
      have both : glue (c :: rest) = fun segments => glue [c] (glue rest segments) := by
        funext segments
        exact (glue_glue [c] rest segments).symm
      rw [both, List.cons_append]
      simp only [← further]
      simp only [Nesting.next?] at step
      split at step
      · rename_i inert
        cases step
        exact segmentsFrom_inert inert _ _
      · rename_i active
        obtain ⟨after, settled, rfl⟩ := Option.map_eq_some_iff.mp step
        rw [segmentsFrom_active (Bool.eq_false_iff.mpr active) (.inr (by omega)), Int.add_assoc,
          ← length_of_await? settled]

end Argument

--------------------------------------------------------------------------------
-- Sealed texts
--------------------------------------------------------------------------------

/-- A well-nested text that belongs to one segment as a whole, whatever follows it. -/
structure Sealed (s : Bytes) : Prop where
  nested : WellNested s
  uncut
    : ∀ t,
        Argument.segmentsFrom .outside 0 (s ++ t)
        = Argument.glue s (Argument.segmentsFrom .outside 0 t)

namespace Sealed

open Argument

theorem nil : Sealed [] :=
  ⟨.nil, fun _ => (glue_nil (segmentsFrom_ne_nil _ _ _)).symm⟩

theorem append {s t : Bytes} (h : Sealed s) (h' : Sealed t) : Sealed (s ++ t) :=
  ⟨h.nested.append h'.nested, fun u => by
    rw [List.append_assoc, h.uncut, h'.uncut, glue_glue]⟩

/-- Bytes that mean nothing to a scan are sealed, unless they are commas. -/
theorem of_each {s : Bytes} (each : ∀ c ∈ s, c.isNeutral = true ∧ c ≠ 0x2c) : Sealed s := by
  refine ⟨.of_neutral fun c member => (each c member).1, fun t => ?_⟩
  induction s with
  | nil => exact nil.uncut t
  | cons c rest ih =>
      rw [List.forall_mem_cons] at each
      obtain ⟨⟨neutral, comma⟩, behind⟩ := each
      obtain ⟨⟨quote, -⟩, bracket⟩ := show (QuoteState.isDelimiter c = false ∧ c ≠ 0x5c)
          ∧ isBracket c = false by
        simpa [Byte.isNeutral] using neutral
      have depth : depthChange c = 0 := by
        rw [isBracket, Bool.or_eq_false_iff, Option.isSome_eq_false_iff,
          Option.isNone_iff_eq_none] at bracket
        simp [depthChange_spec, bracket]
      have stays : QuoteState.outside.next c = .outside := by
        rw [QuoteState.next, quote]
        rfl
      rw [List.cons_append, segmentsFrom_active (q := .outside) quote (.inl comma), depth, stays,
        Int.add_zero, ih behind, glue_glue, List.singleton_append]

/-- A pair of brackets seals what is well nested. -/
theorem bracketed {opener closer : Byte} {inner : Bytes}
    (family : closerOf? opener = some closer) (h : WellNested inner)
    : Sealed (opener :: (inner ++ [closer])) := by
  have pair : WellNested [opener, closer] := by
    rcases closerOf?_eq_some_iff.mp family with ⟨rfl, rfl⟩ | ⟨rfl, rfl⟩ | ⟨rfl, rfl⟩ <;>
      exact .of_scan rfl
  have opens : QuoteState.outside.isInert opener = false
      ∧ QuoteState.outside.next opener = .outside ∧ opener ≠ 0x2c ∧ depthChange opener = 1 := by
    rcases closerOf?_eq_some_iff.mp family with ⟨rfl, rfl⟩ | ⟨rfl, rfl⟩ | ⟨rfl, rfl⟩ <;> decide
  have closes : QuoteState.outside.isInert closer = false
      ∧ QuoteState.outside.next closer = .outside ∧ closer ≠ 0x2c ∧ depthChange closer = -1 := by
    rcases closerOf?_eq_some_iff.mp family with ⟨rfl, rfl⟩ | ⟨rfl, rfl⟩ | ⟨rfl, rfl⟩ <;> decide
  refine ⟨@WellNested.insert [opener] inner [closer] opens.2.1 pair h, fun t => ?_⟩
  have inside := segmentsFrom_after (wellNested_iff.mp h) Nat.one_pos (closer :: t)
  simp only [List.length_nil, Int.natCast_one, Int.natCast_zero, Int.add_zero] at inside
  rw [List.cons_append, List.append_assoc, List.singleton_append,
    segmentsFrom_active opens.1 (.inl opens.2.2.1), opens.2.1, opens.2.2.2, Int.zero_add, inside,
    segmentsFrom_active closes.1 (.inl closes.2.2.1), closes.2.1, closes.2.2.2, glue_glue,
    glue_glue]
  rfl

/-- A sealed text is its own only segment. -/
theorem segments_eq {s : Bytes} (h : Sealed s) : segments s = [s] := by
  have alone := h.uncut []
  simpa only [List.append_nil, segmentsFrom, glue, segments] using alone

end Sealed

--------------------------------------------------------------------------------
-- White space
--------------------------------------------------------------------------------

/-- A text that trimming leaves nothing of has no ASCII bytes but blanks. -/
theorem Bytes.isBlank_of_trim_eq_nil {s : Bytes} (h : Bytes.trim s = []) {b : Byte} (member : b ∈ s)
    (ascii : b < 0x80)
    : b.isBlank = true := by
  obtain ⟨front, back, white, white', parts⟩ := Bytes.trim_parts s
  rw [parts, h, List.append_nil] at member
  rcases List.mem_append.mp member with ahead | behind
  · exact white.isBlank ahead ascii
  · exact white'.isBlank behind ascii

end FormMigrate
