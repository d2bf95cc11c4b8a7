import FormMigrate.Proofs.Scan.Cutting
import FormMigrate.Proofs.Text.Visible

/-! The arguments of a well-nested list are sealed and trimmed: put between commas again, in
whatever order, they are cut into the same arguments.
-/

namespace FormMigrate

--------------------------------------------------------------------------------
-- Sealed texts
--------------------------------------------------------------------------------

namespace Sealed

open Argument

/-- A well-nested text is sealed where it is its own only segment. -/
theorem of_segments {s : Bytes} (nested : WellNested s) (single : segments s = [s])
    : Sealed s := by
  refine ⟨nested, fun t => ?_⟩
  rw [segmentsFrom_append_whole (not_topComma_iff.mpr single), nested.ends, depthOf_nested nested]
  rfl

/-- Trimming keeps a text sealed. -/
theorem trim {s : Bytes} (h : Sealed s) : Sealed (Bytes.trim s) :=
  of_segments h.nested.trim
    (segmentsFrom_whole (not_topComma_trim (not_topComma_iff.mpr h.segments_eq)))

end Sealed

--------------------------------------------------------------------------------
-- Arguments
--------------------------------------------------------------------------------

namespace Argument

/-- The segments of a well-nested text are sealed: none of them has a top-level comma. -/
theorem segments_sealed {s : Bytes} (h : WellNested s) : ∀ segment ∈ segments s, Sealed segment := by
  intro segment member
  obtain ⟨first, others, cut, closes, nested⟩ := segmentsFrom_nested (wellNested_iff.mp h)
  obtain ⟨parts, -⟩ := segmentsFrom_segmented .outside 0 s
  have single := segmentsFrom_whole (parts.whole segment member)
  rw [segments, show segmentsFrom .outside 0 s = first :: others from cut] at member
  rcases List.mem_cons.mp member with rfl | later
  · exact .of_segments (wellNested_iff.mpr closes) single
  · exact .of_segments (nested segment later) single

/-- A text that is one argument of any list of such texts. -/
structure Single (arg : Bytes) : Prop where
  uncut : Sealed arg
  trimmed : Bytes.trim arg = arg
  shown : arg ≠ []

/-- An argument of a well-nested list is one of any list, unless it is blank. -/
theorem single_of_mem_split {s arg : Bytes} (nested : WellNested s) (member : arg ∈ split s)
    (shown : arg ≠ [])
    : Single arg := by
  have trimmed := trim_of_mem_split member
  obtain ⟨segment, inside, rfl⟩ := List.mem_map.mp (mem_of_mem_dropBlankLast member)
  exact ⟨(segments_sealed nested segment inside).trim, trimmed, shown⟩

/-- A text that is cut and trimmed to itself is one argument. -/
theorem Single.of_split {arg : Bytes} (nested : WellNested arg) (alone : segments arg = [arg])
    (trimmed : Bytes.trim arg = arg) (shown : arg ≠ [])
    : Single arg :=
  ⟨.of_segments nested alone, trimmed, shown⟩

/-- A sealed text that starts and ends with visible bytes is one argument. -/
theorem Single.of_edges {arg : Bytes} {c d : Byte} (uncut : Sealed arg) (first : arg.head? = some c)
    (last : arg.getLast? = some d) (visible : c.isVisible = true) (visible' : d.isVisible = true)
    : Single arg := by
  refine ⟨uncut, Bytes.trim_eq first last visible visible', ?_⟩
  rintro rfl
  cases first

/-- A sealed text in front of a comma is the first argument. -/
theorem split_cons {first : Bytes} (uncut : Sealed first) (rest : Bytes)
    : split (first ++ 0x2c :: rest) = Bytes.trim first :: split rest := by
  have parts : segments (first ++ 0x2c :: rest) = first :: segments rest := by
    have comma : segmentsFrom .outside 0 (0x2c :: rest) = [] :: segments rest := rfl
    rw [segments, uncut.uncut, comma, glue, List.append_nil]
  obtain ⟨second, others, some⟩ := List.exists_cons_of_ne_nil (segmentsFrom_ne_nil .outside 0 rest)
  rw [split, split, parts, segments, some]
  rfl

/-- A sealed text is the only argument, unless it is blank. -/
theorem split_sealed {arg : Bytes} (uncut : Sealed arg) (visible : Bytes.trim arg ≠ [])
    : split arg = [Bytes.trim arg] := by
  rw [split, uncut.segments_eq, List.map_singleton, dropBlankLast_of_getLast?]
  exact fun empty => visible (Option.some.inj empty)

/-- Such texts are the arguments of the list that they make up. -/
theorem split_join_single {args : List Bytes} (each : ∀ arg ∈ args, Single arg)
    : split (Bytes.join ", " args) = args := by
  have trimmed : ∀ arg ∈ args, Bytes.trim arg = arg := fun arg member => (each arg member).trimmed
  have visible : ∀ arg ∈ args, Bytes.trim arg ≠ [] := fun arg member =>
    (trimmed arg member).symm ▸ (each arg member).shown
  calc split (Bytes.join ", " args)
      = args.map Bytes.trim := split_join (fun arg member => (each arg member).uncut) visible
    _ = args.map id := List.map_congr_left trimmed
    _ = args := List.map_id args

end Argument

end FormMigrate
