import FormMigrate.Proofs.Scan.Sealed
import FormMigrate.Proofs.Text.Trim

/-! Cutting argument lists: a text is cut at its top-level commas and nowhere else, and its
arguments are cut into themselves again, even where brackets or strings of the text do not close.
-/

namespace FormMigrate.Argument

--------------------------------------------------------------------------------
-- Statement
--------------------------------------------------------------------------------

/-- By how many brackets of all families are opened more often than closed in a text, outside
strings.
-/
def depthOf (q : QuoteState) (s : Bytes) : Int :=
  ((brackets q s).countP fun c => (closerOf? c).isSome : Nat) - ((brackets q s).countP isCloser : Nat)

/-- From a quote state and a depth on, the comma at a place stands outside strings and at depth
zero.
-/
structure CutAt (q : QuoteState) (depth : Int) (s : Bytes) (place : Nat) : Prop where
  comma : s[place]? = some 0x2c
  outside : q.after (s.take place) = .outside
  level : depth + depthOf q (s.take place) = 0

/-- The comma at a place of a text stands outside strings, and behind as many brackets that close as
brackets that open.
-/
abbrev TopComma (s : Bytes) (place : Nat) : Prop := CutAt .outside 0 s place

/-- A text is made up of segments with commas between them, which are its top-level commas. -/
structure CutInto (s : Bytes) (segments : List Bytes) : Prop where
  joined : Bytes.join "," segments = s
  commas
    : ∀ place,
        TopComma s place
        ↔ ∃ before behind,
            before ≠ []
            ∧ behind ≠ []
            ∧ segments = before ++ behind
            ∧ place = (Bytes.join "," before).length

/-- A trimmed and well-nested text without a top-level comma. -/
structure Atomic (text : Bytes) : Prop where
  trimmed : Bytes.trim text = text
  nested : WellNested text
  whole : ∀ place, ¬ TopComma text place

--------------------------------------------------------------------------------
-- Depth
--------------------------------------------------------------------------------

theorem brackets_append (q : QuoteState) (s t : Bytes)
    : brackets q (s ++ t) = brackets q s ++ brackets (q.after s) t := by
  induction s generalizing q with
  | nil => rfl
  | cons c rest ih =>
      simp only [List.cons_append, brackets, ih]
      split <;> rfl

theorem depthOf_append (q : QuoteState) (s t : Bytes)
    : depthOf q (s ++ t) = depthOf q s + depthOf (q.after s) t := by
  simp only [depthOf, brackets_append, List.countP_append]
  omega

theorem depthOf_inert {q : QuoteState} {c : Byte} (inert : q.isInert c = true)
    : depthOf q [c] = 0 := by
  simp [depthOf, brackets, inert]

theorem depthOf_active {q : QuoteState} {c : Byte} (active : q.isInert c = false)
    : depthOf q [c] = depthChange c := by
  have apart : ∀ c : Byte, ((closerOf? c).isSome && isCloser c) = false := by decide
  have apart := apart c
  rw [depthChange_spec, depthOf, brackets, active, isBracket]
  cases opens : (closerOf? c).isSome with
  | true =>
      rw [opens, Bool.true_and] at apart
      simp [brackets, opens, apart]
  | false => cases closes : isCloser c <;> simp [brackets, opens, closes]

/-- Matching brackets open as often as they close. -/
theorem countP_matched {s : Bytes} (h : Matched s)
    : s.countP (fun c => (closerOf? c).isSome) = s.countP isCloser := by
  induction h with
  | nil => rfl
  | @pair opener closer inner rest family _ _ ih ih' =>
      have shut := closer_closes family
      have plain : isCloser opener = false := by
        rcases closerOf?_eq_some_iff.mp family with ⟨rfl, -⟩ | ⟨rfl, -⟩ | ⟨rfl, -⟩ <;> decide
      simp [List.countP_append, family, shut, plain, ih, ih']
      omega

theorem depthOf_nested {s : Bytes} (h : WellNested s) : depthOf .outside s = 0 := by
  rw [depthOf, countP_matched h.matched]
  exact Int.sub_self _

--------------------------------------------------------------------------------
-- Places of commas
--------------------------------------------------------------------------------

theorem cutAt_append_left {q : QuoteState} {depth : Int} {s t : Bytes} {place : Nat}
    (inside : place < s.length)
    : CutAt q depth (s ++ t) place ↔ CutAt q depth s place := by
  have same : (s ++ t).take place = s.take place :=
    List.take_append_of_le_length (Nat.le_of_lt inside)
  have byte : (s ++ t)[place]? = s[place]? := List.getElem?_append_left inside
  constructor
  · rintro ⟨comma, outside, level⟩
    exact ⟨byte ▸ comma, same ▸ outside, same ▸ level⟩
  · rintro ⟨comma, outside, level⟩
    exact ⟨byte.symm ▸ comma, same.symm ▸ outside, same.symm ▸ level⟩

theorem cutAt_append_right {q : QuoteState} {depth : Int} {s t : Bytes} {place : Nat}
    : CutAt q depth (s ++ t) (s.length + place)
      ↔ CutAt (q.after s) (depth + depthOf q s) t place := by
  have front : (s ++ t).take (s.length + place) = s ++ t.take place :=
    List.take_length_add_append place
  have byte : (s ++ t)[s.length + place]? = t[place]? := by
    rw [List.getElem?_append_right (Nat.le_add_right _ _), Nat.add_sub_cancel_left]
  constructor
  · rintro ⟨comma, outside, level⟩
    rw [front, QuoteState.after_append] at outside
    rw [front, depthOf_append, ← Int.add_assoc] at level
    exact ⟨byte ▸ comma, outside, level⟩
  · rintro ⟨comma, outside, level⟩
    refine ⟨byte.symm ▸ comma, ?_, ?_⟩
    · rw [front, QuoteState.after_append, outside]
    · rw [front, depthOf_append, ← Int.add_assoc, level]

theorem cutAt_zero {q : QuoteState} {depth : Int} {c : Byte} {rest : Bytes}
    : CutAt q depth (c :: rest) 0 ↔ c = 0x2c ∧ q = .outside ∧ depth = 0 := by
  constructor
  · rintro ⟨comma, outside, level⟩
    exact ⟨Option.some.inj comma, outside, by simpa [depthOf, brackets] using level⟩
  · rintro ⟨rfl, rfl, rfl⟩
    exact ⟨rfl, rfl, rfl⟩

theorem cutAt_succ {q : QuoteState} {depth : Int} {c : Byte} {rest : Bytes} {place : Nat}
    : CutAt q depth (c :: rest) (place + 1)
      ↔ CutAt (q.next c) (depth + depthOf q [c]) rest place := by
  rw [Nat.add_comm]
  exact @cutAt_append_right q depth [c] rest place

/-- One byte: a top-level comma parts two segments, and any other byte belongs to a segment. -/
theorem segmentsFrom_byte (q : QuoteState) (depth : Int) (c : Byte)
    : (c = 0x2c ∧ q = .outside ∧ depth = 0
        ∧ ∀ rest, segmentsFrom q depth (c :: rest) = [] :: segmentsFrom .outside 0 rest)
      ∨ (¬ (c = 0x2c ∧ q = .outside ∧ depth = 0)
        ∧ ∀ rest,
            segmentsFrom q depth (c :: rest)
              = glue [c] (segmentsFrom (q.next c) (depth + depthOf q [c]) rest)) := by
  by_cases top : c = 0x2c ∧ q = .outside ∧ depth = 0
  · obtain ⟨rfl, rfl, rfl⟩ := top
    exact .inl ⟨rfl, rfl, rfl, fun rest => rfl⟩
  · refine .inr ⟨top, fun rest => ?_⟩
    cases inert : q.isInert c with
    | true => rw [segmentsFrom_inert inert, depthOf_inert inert, Int.add_zero]
    | false =>
        have outside : q = .outside := by
          cases q with
          | outside => rfl
          | inside => cases inert
        have held : c ≠ 0x2c ∨ depth ≠ 0 := by
          by_contra both
          simp only [not_or, not_not] at both
          exact top ⟨both.1, outside, both.2⟩
        rw [segmentsFrom_active inert held, depthOf_active inert]

--------------------------------------------------------------------------------
-- Segments
--------------------------------------------------------------------------------

/-- Segments from a quote state and a depth on: no top-level comma is inside of them, and all but
the last one end outside strings and at depth zero.
-/
inductive Segmented : QuoteState → Int → List Bytes → Prop
  | last {q depth s} (whole : ∀ place, ¬ CutAt q depth s place) : Segmented q depth [s]
  | cons {q depth s others} (whole : ∀ place, ¬ CutAt q depth s place)
    (outside : q.after s = .outside) (level : depth + depthOf q s = 0)
    (behind : Segmented .outside 0 others)
    : Segmented q depth (s :: others)

namespace Segmented

variable {q : QuoteState} {depth : Int} {segments : List Bytes}

theorem ne_nil (h : Segmented q depth segments) : segments ≠ [] := by
  cases h <;> exact List.cons_ne_nil _ _

theorem not_cutAt_nil (q : QuoteState) (depth : Int) (place : Nat) : ¬ CutAt q depth [] place :=
  fun cut => by cases cut.comma

theorem not_cutAt_cons {c : Byte} {s : Bytes} (other : ¬ (c = 0x2c ∧ q = .outside ∧ depth = 0))
    (whole : ∀ place, ¬ CutAt (q.next c) (depth + depthOf q [c]) s place) (place : Nat)
    : ¬ CutAt q depth (c :: s) place := by
  cases place with
  | zero => exact mt cutAt_zero.mp other
  | succ place => exact mt cutAt_succ.mp (whole place)

/-- A byte that is no top-level comma goes in front of the first segment. -/
theorem prepend {c : Byte} (other : ¬ (c = 0x2c ∧ q = .outside ∧ depth = 0))
    (h : Segmented (q.next c) (depth + depthOf q [c]) segments)
    : Segmented q depth (glue [c] segments) := by
  cases h with
  | last whole => exact .last (not_cutAt_cons other whole)
  | @cons _ _ s _ whole outside level behind =>
      refine .cons (not_cutAt_cons other whole) outside ?_ behind
      have front := depthOf_append q [c] s
      rw [show q.after [c] = q.next c from rfl] at front
      rw [front]
      omega

end Segmented

theorem join_glue (c : Byte) {segments : List Bytes} (some : segments ≠ [])
    : Bytes.join "," (glue [c] segments) = c :: Bytes.join "," segments := by
  obtain ⟨segment, others, rfl⟩ := List.exists_cons_of_ne_nil some
  cases others <;> simp [glue, Bytes.join, List.intercalate_cons_cons]

theorem join_cons (s : Bytes) {others : List Bytes} (some : others ≠ [])
    : Bytes.join "," (s :: others) = s ++ 0x2c :: Bytes.join "," others := by
  obtain ⟨second, rest, rfl⟩ := List.exists_cons_of_ne_nil some
  rw [Bytes.join, List.intercalate_cons_cons, List.append_assoc]
  rfl

/-- A space behind each comma is a space in front of all texts but the first one. -/
theorem join_spaces (first : Bytes) (others : List Bytes)
    : Bytes.join ", " (first :: others) = Bytes.join "," (first :: others.map (0x20 :: ·)) := by
  induction others generalizing first with
  | nil => rfl
  | cons second others ih =>
      calc Bytes.join ", " (first :: second :: others)
          = first ++ 0x2c :: 0x20 :: Bytes.join ", " (second :: others) := by
            rw [Bytes.join, List.intercalate_cons_cons, List.append_assoc]
            rfl
        _ = first ++ 0x2c :: 0x20 :: Bytes.join "," (second :: others.map (0x20 :: ·)) := by
            rw [ih]
        _ = Bytes.join "," (first :: (second :: others).map (0x20 :: ·)) := by
            rw [← join_glue 0x20 (List.cons_ne_nil _ _)]
            exact (join_cons first (List.cons_ne_nil _ _)).symm

/-- A text is cut into segments without a top-level comma, which make it up with the commas between
them.
-/
theorem segmentsFrom_segmented (q : QuoteState) (depth : Int) (s : Bytes)
    : Segmented q depth (segmentsFrom q depth s)
      ∧ Bytes.join "," (segmentsFrom q depth s) = s := by
  induction s generalizing q depth with
  | nil => exact ⟨.last (Segmented.not_cutAt_nil q depth), rfl⟩
  | cons c rest ih =>
      rcases segmentsFrom_byte q depth c with ⟨rfl, rfl, rfl, comma⟩ | ⟨other, held⟩
      · obtain ⟨cut, joined⟩ := ih .outside 0
        rw [comma, join_cons [] cut.ne_nil, joined]
        exact ⟨.cons (Segmented.not_cutAt_nil _ _) rfl rfl cut, rfl⟩
      · obtain ⟨cut, joined⟩ := ih (q.next c) (depth + depthOf q [c])
        rw [held, join_glue c cut.ne_nil, joined]
        exact ⟨cut.prepend other, rfl⟩

/-- The top-level commas of a text are those between its segments, by induction on these. -/
theorem Segmented.cutAt_iff {q : QuoteState} {depth : Int} {segments : List Bytes}
    (h : Segmented q depth segments) {place : Nat}
    : CutAt q depth (Bytes.join "," segments) place
      ↔ ∃ before behind,
          before ≠ []
          ∧ behind ≠ []
          ∧ segments = before ++ behind
          ∧ place = (Bytes.join "," before).length := by
  induction h generalizing place with
  | @last q depth s whole =>
      rw [Bytes.join, List.intercalate_singleton]
      refine ⟨fun cut => (whole place cut).elim, ?_⟩
      rintro ⟨before, behind, some, some', parts, -⟩
      obtain ⟨first, rest, rfl⟩ := List.exists_cons_of_ne_nil some
      obtain ⟨last, rest', rfl⟩ := List.exists_cons_of_ne_nil some'
      simp at parts
  | @cons q depth s others whole outside level behind ih =>
      rw [join_cons s behind.ne_nil]
      constructor
      · intro cut
        rcases Nat.lt_trichotomy place s.length with inside | rfl | beyond
        · exact (whole place ((cutAt_append_left inside).mp cut)).elim
        · refine ⟨[s], others, by simp, behind.ne_nil, rfl, ?_⟩
          rw [Bytes.join, List.intercalate_singleton]
        · obtain ⟨k, rfl⟩ := Nat.exists_eq_add_of_le beyond
          rw [Nat.succ_add_eq_add_succ, cutAt_append_right, outside, level, cutAt_succ] at cut
          obtain ⟨before, behind', some, some', rfl, rfl⟩ := ih.mp cut
          refine ⟨s :: before, behind', by simp, some', rfl, ?_⟩
          rw [join_cons s some, List.length_append, List.length_cons]
          omega
      · rintro ⟨before, behind', some, some', parts, rfl⟩
        obtain ⟨first, rest, rfl⟩ := List.exists_cons_of_ne_nil some
        obtain ⟨rfl, rfl⟩ := List.cons.inj parts
        cases rest with
        | nil =>
            have alone : Bytes.join "," [s] = s := by rw [Bytes.join, List.intercalate_singleton]
            rw [alone, ← Nat.add_zero s.length, cutAt_append_right, outside, level, cutAt_zero]
            exact ⟨rfl, rfl, rfl⟩
        | cons second rest =>
            rw [join_cons s (List.cons_ne_nil second rest), List.length_append, List.length_cons,
              cutAt_append_right, outside, level, cutAt_succ]
            exact ih.mpr ⟨_, _, List.cons_ne_nil second rest, some', rfl, rfl⟩

/-- No segment of a text has a top-level comma. -/
theorem Segmented.whole {segments : List Bytes} (h : Segmented .outside 0 segments)
    : ∀ segment ∈ segments, ∀ place, ¬ TopComma segment place := by
  induction segments with
  | nil => exact List.forall_mem_nil _
  | cons s others ih =>
      cases h with
      | last whole => exact List.forall_mem_singleton.mpr whole
      | cons whole _ _ behind => exact List.forall_mem_cons.mpr ⟨whole, ih behind⟩

theorem Segmented.cutInto {segments : List Bytes} (h : Segmented .outside 0 segments)
    : CutInto (Bytes.join "," segments) segments :=
  ⟨rfl, fun _ => h.cutAt_iff⟩

--------------------------------------------------------------------------------
-- Segments put together
--------------------------------------------------------------------------------

/-- Before a top-level comma nothing is cut: the text belongs to one segment with what follows it.
-/
theorem segmentsFrom_append_whole {q : QuoteState} {depth : Int} {s : Bytes}
    (whole : ∀ place, ¬ CutAt q depth s place) (t : Bytes)
    : segmentsFrom q depth (s ++ t)
      = glue s (segmentsFrom (q.after s) (depth + depthOf q s) t) := by
  induction s generalizing q depth with
  | nil =>
      rw [show depthOf q [] = 0 from rfl, Int.add_zero, glue_nil (segmentsFrom_ne_nil _ _ _)]
      rfl
  | cons c rest ih =>
      rcases segmentsFrom_byte q depth c with ⟨rfl, rfl, rfl, -⟩ | ⟨-, held⟩
      · exact (whole 0 (cutAt_zero.mpr ⟨rfl, rfl, rfl⟩)).elim
      · have later := ih fun place cut => whole (place + 1) (cutAt_succ.mpr cut)
        have front := depthOf_append q [c] rest
        rw [List.singleton_append] at front
        rw [List.cons_append, held, later, glue_glue, List.singleton_append, front, Int.add_assoc]
        rfl

theorem segmentsFrom_whole {q : QuoteState} {depth : Int} {s : Bytes}
    (whole : ∀ place, ¬ CutAt q depth s place)
    : segmentsFrom q depth s = [s] := by
  have alone := segmentsFrom_append_whole whole []
  rwa [List.append_nil, segmentsFrom, glue, List.append_nil] at alone

/-- A text without a top-level comma is its own only segment. -/
theorem not_topComma_iff {s : Bytes} : (∀ place, ¬ TopComma s place) ↔ segments s = [s] := by
  refine ⟨segmentsFrom_whole, fun alone => ?_⟩
  obtain ⟨cut, -⟩ := segmentsFrom_segmented .outside 0 s
  rw [show segmentsFrom .outside 0 s = [s] from alone] at cut
  cases cut with
  | last whole => exact whole
  | cons whole => exact whole

theorem atomic_iff {text : Bytes}
    : Atomic text ↔ Bytes.trim text = text ∧ WellNested text ∧ segments text = [text] := by
  rw [← not_topComma_iff]
  exact ⟨fun ⟨trimmed, nested, whole⟩ => ⟨trimmed, nested, whole⟩,
    fun ⟨trimmed, nested, whole⟩ => ⟨trimmed, nested, whole⟩⟩

instance (text : Bytes) : Decidable (Atomic text) := decidable_of_iff _ atomic_iff.symm

/-- Segments are cut out of the text that they make up. -/
theorem Segmented.segmentsFrom_join {q : QuoteState} {depth : Int} {segments : List Bytes}
    (h : Segmented q depth segments)
    : segmentsFrom q depth (Bytes.join "," segments) = segments := by
  induction h with
  | @last q depth s whole =>
      rw [Bytes.join, List.intercalate_singleton]
      exact segmentsFrom_whole whole
  | @cons q depth s others whole outside level behind ih =>
      rw [join_cons s behind.ne_nil, segmentsFrom_append_whole whole, outside, level,
        show ∀ rest, segmentsFrom .outside 0 (0x2c :: rest) = [] :: segmentsFrom .outside 0 rest
          from fun rest => rfl, ih, glue, List.append_nil]

namespace Segmented

variable {first last : Bytes} {front others : List Bytes}

/-- A space in front of a segment stays in it. -/
theorem space (h : Segmented .outside 0 (first :: others))
    : Segmented .outside 0 ((0x20 :: first) :: others) :=
  @prepend .outside 0 (first :: others) 0x20 (by simp) h

/-- A space behind each comma is in front of the segment there. -/
theorem spaced {q : QuoteState} {depth : Int} (h : Segmented q depth (first :: others))
    : Segmented q depth (first :: others.map (0x20 :: ·)) := by
  induction others generalizing q depth first with
  | nil => exact h
  | cons second others ih =>
      cases h with
      | cons whole outside level behind =>
          exact .cons whole outside level (ih behind).space

/-- Segments with a space behind each comma are cut apart, and keep the spaces. -/
theorem segments_join (h : Segmented .outside 0 (first :: others))
    : segments (Bytes.join ", " (first :: others)) = first :: others.map (0x20 :: ·) := by
  rw [join_spaces]
  exact h.spaced.segmentsFrom_join

theorem init (some : front ≠ []) {q : QuoteState} {depth : Int}
    (h : Segmented q depth (front ++ [last]))
    : Segmented q depth front := by
  induction front generalizing q depth with
  | nil => exact (some rfl).elim
  | cons s others ih =>
      cases others with
      | nil =>
          cases h with
          | cons whole _ _ _ => exact .last whole
      | cons second others =>
          cases h with
          | cons whole outside level behind =>
              exact .cons whole outside level (ih (List.cons_ne_nil _ _) behind)

end Segmented

--------------------------------------------------------------------------------
-- Trimmed segments
--------------------------------------------------------------------------------

theorem depthOf_neutral {s : Bytes} (neutral : s.Neutral) : depthOf .outside s = 0 :=
  depthOf_nested (.of_neutral neutral)

/-- Trimming a text without a top-level comma leaves none.
Witness: white space in front changes neither the quote state nor the depth.
-/
theorem not_topComma_trim {s : Bytes} (whole : ∀ place, ¬ TopComma s place) (place : Nat)
    : ¬ TopComma (Bytes.trim s) place := by
  intro cut
  obtain ⟨front, back, before, -, parts⟩ := Bytes.trim_spec s
  obtain ⟨inside, -⟩ := List.getElem?_eq_some_iff.mp cut.comma
  refine whole (front.length + place) ?_
  rw [parts, TopComma, List.append_assoc, cutAt_append_right,
    (WellNested.of_neutral before).ends, depthOf_neutral before, Int.add_zero]
  exact (cutAt_append_left inside).mpr cut

/-- Trimming a text that ends outside strings and at depth zero leaves one that does so. -/
theorem ends_trim {s : Bytes} (outside : QuoteState.outside.after s = .outside)
    (level : depthOf .outside s = 0)
    : QuoteState.outside.after (Bytes.trim s) = .outside
      ∧ depthOf .outside (Bytes.trim s) = 0 := by
  obtain ⟨front, back, before, behind, parts⟩ := Bytes.trim_spec s
  have ahead := (WellNested.of_neutral before).ends
  rw [parts, QuoteState.after_append, QuoteState.after_append, ahead] at outside
  have ends := ((show QuoteState.outside.Quoted from trivial).after _).outside_of_after behind
    outside
  rw [parts, depthOf_append, depthOf_append, QuoteState.after_append, ahead, ends,
    depthOf_neutral before, depthOf_neutral behind] at level
  exact ⟨ends, by omega⟩

theorem Segmented.trim {texts : List Bytes} (h : Segmented .outside 0 texts)
    : Segmented .outside 0 (texts.map Bytes.trim) := by
  induction texts with
  | nil => cases h
  | cons s others ih =>
      cases h with
      | last whole => exact .last (not_topComma_trim whole)
      | cons whole outside level behind =>
          rw [Int.zero_add] at level
          obtain ⟨ends, shut⟩ := ends_trim outside level
          exact .cons (not_topComma_trim whole) ends (by rw [shut]; rfl) (ih behind)

/-- Well-nested texts without a top-level comma are segments. -/
theorem Segmented.of_nested {first : Bytes} {others : List Bytes}
    (each : ∀ s ∈ first :: others, WellNested s ∧ ∀ place, ¬ TopComma s place)
    : Segmented .outside 0 (first :: others) := by
  induction others generalizing first with
  | nil => exact .last (each first List.mem_cons_self).2
  | cons second others ih =>
      rw [List.forall_mem_cons] at each
      obtain ⟨⟨nested, whole⟩, behind⟩ := each
      exact .cons whole nested.ends (by rw [depthOf_nested nested]; rfl) (ih behind)

--------------------------------------------------------------------------------
-- Main results
--------------------------------------------------------------------------------

theorem dropBlankLast_append (front : List Bytes) (last : Bytes)
    : dropBlankLast (front ++ [last]) = front ++ if last = [] then [] else [last] := by
  induction front with
  | nil => simp [dropBlankLast]
  | cons first others ih =>
      rw [List.cons_append, List.cons_append, ← ih]
      cases others <;> rfl

theorem dropBlankLast_of_getLast? {texts : List Bytes} (shown : texts.getLast? ≠ some [])
    : dropBlankLast texts = texts := by
  cases texts using List.reverseRecOn with
  | nil => rfl
  | append_singleton front last =>
      have visible : last ≠ [] := by
        rintro rfl
        exact shown List.getLast?_concat
      rw [dropBlankLast_append, if_neg visible]

/-- Segments are cut out of a list with a space behind each comma, and trimmed. -/
theorem split_join_segmented {texts : List Bytes} (h : Segmented .outside 0 texts)
    (shown : (texts.map Bytes.trim).getLast? ≠ some [])
    : split (Bytes.join ", " texts) = texts.map Bytes.trim := by
  obtain ⟨first, others, rfl⟩ := List.exists_cons_of_ne_nil h.ne_nil
  have spaces : (first :: others.map (0x20 :: ·)).map Bytes.trim
      = (first :: others).map Bytes.trim := by
    rw [List.map_cons, List.map_map, List.map_cons]
    rfl
  rw [split, h.segments_join, spaces]
  exact dropBlankLast_of_getLast? shown

theorem split_join_trimmed {texts : List Bytes} (h : Segmented .outside 0 texts)
    (trimmed : ∀ text ∈ texts, Bytes.trim text = text) (shown : texts.getLast? ≠ some [])
    : split (Bytes.join ", " texts) = texts := by
  have same : texts.map Bytes.trim = texts :=
    calc texts.map Bytes.trim
        = texts.map id := List.map_congr_left trimmed
      _ = texts := List.map_id texts
  rw [split_join_segmented h (same.symm ▸ shown), same]

/-- A list of sealed texts that are not blank is cut back into them. -/
theorem split_join {texts : List Bytes} (sealedTexts : ∀ s ∈ texts, Sealed s)
    (visible : ∀ s ∈ texts, Bytes.trim s ≠ [])
    : split (Bytes.join ", " texts) = texts.map Bytes.trim := by
  cases texts with
  | nil => rfl
  | cons first others =>
      refine split_join_segmented (.of_nested fun s member => ?_) fun blank => ?_
      · exact ⟨(sealedTexts s member).nested,
          not_topComma_iff.mpr (sealedTexts s member).segments_eq⟩
      · obtain ⟨s, member, empty⟩ := List.mem_map.mp (List.mem_of_getLast? blank)
        exact visible s member empty

/-- Arguments are trimmed. -/
theorem trim_of_mem_split {s arg : Bytes} (member : arg ∈ split s) : Bytes.trim arg = arg := by
  obtain ⟨segment, -, rfl⟩ := List.mem_map.mp (mem_of_mem_dropBlankLast member)
  exact Bytes.trim_trim segment

/-- What is left of segments without a blank last one are segments, or none. -/
theorem Segmented.dropBlankLast {texts : List Bytes} (h : Segmented .outside 0 texts)
    (some : dropBlankLast texts ≠ [])
    : Segmented .outside 0 (dropBlankLast texts) := by
  cases texts using List.reverseRecOn with
  | nil => exact (some rfl).elim
  | append_singleton front last =>
      rw [dropBlankLast_append] at some ⊢
      split at some
      · rename_i blank
        rw [if_pos blank]
        rw [List.append_nil] at some ⊢
        exact h.init some
      · rename_i visible
        rwa [if_neg visible]

/-- The arguments of a text are the trimmed segments between its top-level commas, and only the last
one is dropped where it is blank; joining the segments with commas gives the text. Cutting inverts
joining: trimmed and well-nested texts without a top-level comma are cut apart again, and so are the
arguments of any text, unless the last one is empty.
Witness: a text without a top-level comma is cut nowhere, and trimming gives it none. Arguments but
the last one end outside strings and at depth zero, so that the comma behind them cuts.
-/
theorem split_cuts (s : Bytes) (texts : List Bytes)
    : (∃ front last,
        CutInto s (front ++ [last])
        ∧ split s
          = front.map Bytes.trim ++ if Bytes.trim last = [] then [] else [Bytes.trim last])
      ∧ ((∀ text ∈ texts, Atomic text)
          → texts.getLast? ≠ some []
          → split (Bytes.join ", " texts) = texts)
      ∧ ((split s).getLast? ≠ some [] → split (Bytes.join ", " (split s)) = split s) := by
  obtain ⟨cut, joined⟩ : Segmented .outside 0 (segments s) ∧ Bytes.join "," (segments s) = s :=
    segmentsFrom_segmented .outside 0 s
  refine ⟨?_, fun atomic shown => ?_, fun shown => ?_⟩
  · obtain ⟨front, last, ends⟩ := (List.eq_nil_or_concat' (segments s)).resolve_left cut.ne_nil
    refine ⟨front, last, ?_, ?_⟩
    · have parts := cut.cutInto
      rwa [joined, ends] at parts
    · rw [← dropBlankLast_append, ← List.map_singleton, ← List.map_append, ← ends]
      rfl
  · cases texts with
    | nil => rfl
    | cons first others =>
        exact split_join_trimmed
          (.of_nested fun text member => ⟨(atomic text member).nested, (atomic text member).whole⟩)
          (fun text member => (atomic text member).trimmed) shown
  · by_cases none : split s = []
    · rw [none]
      rfl
    · exact split_join_trimmed (cut.trim.dropBlankLast none)
        (fun text member => trim_of_mem_split member) shown

/-- The cut text has a bracket that nothing opens and a string without an end, and is cut behind the
bracket that takes the depth back to zero; the joined texts have commas in brackets and strings.
-/
theorem split_cuts_malformed
    : split ")a, (b , 'c, " = [")a, (b", "'c,"]
      ∧ split (Bytes.join ", " [")a, (b", "'c,"]) = [")a, (b", "'c,"]
      ∧ split (Bytes.join ", " ["f(x, y,)", "", "'g, '"]) = ["f(x, y,)", "", "'g, '"] := by
  obtain ⟨-, joined, again⟩ := split_cuts ")a, (b , 'c, " ["f(x, y,)", "", "'g, '"]
  have cut : split ")a, (b , 'c, " = [")a, (b", "'c,"] := by decide +kernel
  rw [cut] at again
  exact ⟨cut, again (by decide), joined (by decide +kernel) (by decide)⟩

end FormMigrate.Argument
