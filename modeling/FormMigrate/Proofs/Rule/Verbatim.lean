import FormMigrate.Proofs.Call.Strings
import FormMigrate.Proofs.Literal.Boundaries
import FormMigrate.Proofs.Literal.RoundTrip
import FormMigrate.Proofs.Rule.Arrangement
import FormMigrate.Proofs.Rule.FixedPoint
import FormMigrate.Proofs.Rule.StaticArrays

/-! Strings through a full run: a call of a single field with quoted strings becomes its chain with
the strings as they were, if no other pass converts anything inside them.
-/

namespace FormMigrate

--------------------------------------------------------------------------------
-- Quoted strings as arguments
--------------------------------------------------------------------------------

/-- A quoted string is one argument of any list: it starts and ends with a quote. -/
theorem quote_single (s : Bytes) : Argument.Single (quote s) :=
  .of_edges (Literal.quote_spells s).sealed (show _ = some 0x27 from rfl) List.getLast?_concat rfl rfl

/-- A quoted string is no empty array, for its quotes are visible. -/
theorem isEmptyArray_quote (s : Bytes) : CallSite.isEmptyArray (quote s) = false := by
  rw [Bool.eq_false_iff]
  intro empty
  have quoted : (0x27 : Byte) ∈ ((quote s).filter Byte.isVisible).map Byte.lower :=
    List.mem_map_of_mem (List.mem_filter.mpr ⟨List.mem_cons_self, rfl⟩)
  rcases CallSite.visible_of_isEmptyArray empty with some | some
  · exact absurd (some.subset quoted) (by decide)
  · exact absurd (some.subset quoted) (by decide)

/-- Quoted strings are given as arguments wherever there are as many of them. -/
theorem given?_quoted {strings : List Bytes} {i : Nat} {s : Bytes} (known : strings[i]? = some s)
    : given? (strings.map quote) i = some (quote s)
      ∧ givenAttributes? (strings.map quote) i = some (quote s) := by
  have found : (strings.map quote)[i]? = some (quote s) := by
    rw [List.getElem?_map, known]
    rfl
  have given : given? (strings.map quote) i = some (quote s) := by
    rw [given?, found]
    rfl
  refine ⟨given, ?_⟩
  rw [givenAttributes?, given, Option.filter_some, isEmptyArray_quote]
  rfl

theorem mem_of_given?_quoted {strings : List Bytes} {i : Nat} {v : Bytes}
    (given : given? (strings.map quote) i = some v)
    : ∃ s ∈ strings, v = quote s := by
  obtain ⟨found, -⟩ := Option.filter_eq_some_iff.mp given
  obtain ⟨s, known, rfl⟩ := List.mem_map.mp (List.mem_of_getElem? found)
  exact ⟨s, known, rfl⟩

--------------------------------------------------------------------------------
-- The call and its chain
--------------------------------------------------------------------------------

/-- The text of a call of the facade. -/
def callText (keyword : Bytes) (args : List Bytes) : Bytes :=
  facade ++ keyword ++ "(" ++ Bytes.join ", " args ++ ")"

theorem callText_eq (pass : Pass) (args : List Bytes)
    : callText pass.keyword args = pass.marker ++ 0x28 :: (Bytes.join ", " args ++ [0x29]) := by
  simp only [callText, Pass.marker, List.append_assoc]
  rfl

/-- In the chain that quoted strings are to become all colons stand in the strings. -/
theorem mixed_arrangement (keyword : Bytes) (strings : List Bytes)
    : Mixed strings (Chain.code (arrangement keyword (strings.map quote))) := by
  have fillers : ∀ text ∈ fillers, Mixed strings text := by
    have colonless : ∀ text ∈ fillers, 0x3a ∉ text := by decide
    exact fun text member => .plain (colonless text member)
  have given (i : Nat) (v : Bytes) (found : given? (strings.map quote) i = some v)
      : Mixed strings v := by
    obtain ⟨s, known, rfl⟩ := mem_of_given?_quoted found
    exact .quoted known
  have holds := holds_arrangement given fillers keyword
  have named : ∀ c : Byte, c.isNamePart = true → c ≠ 0x3a := by decide
  have call {call : Link} (h : call.Holds (Mixed strings)) : Mixed strings call.code := by
    have method : 0x3a ∉ call.method := fun inside =>
      named _ (List.all_eq_true.mp h.named _ inside) rfl
    have arrow : Mixed strings "->" := .plain (by decide)
    exact (((arrow.append (.plain method)).append (.plain (by decide))).append
      (.join (by decide) h.each)).append (.plain (by decide))
  rw [Chain.code]
  refine Mixed.prepend (by decide) ?_
  generalize arrangement keyword (strings.map quote) = calls at holds
  induction calls with
  | nil => exact .plain List.not_mem_nil
  | cons first others ih =>
      rw [List.forall_mem_cons] at holds
      exact (call holds.1).append (ih holds.2)

namespace Pass

variable {pass : Pass}

/-- A pass that finds no call in a text leaves it alone. -/
theorem leaves_of_free {text : Bytes} (free : ∀ pos opening, ¬ pass.Occurrence text pos opening)
    : pass.Leaves text :=
  ⟨[], .finished fun pos opening _ => free pos opening, nofun⟩

/-- A pass replaces a text that is one call of its keyword as a whole.
Witness: the course of the pass has the call for its only stop.
-/
theorem sweep_callText (regular : pass.Regular) {args : List Bytes}
    (nested : WellNested (Bytes.join ", " args)) {text : Bytes}
    (reply : (pass.build ⟨pass.keyword, Bytes.join ", " args⟩).replacement = some text)
    (file : Bytes)
    : (pass.sweep file (callText pass.keyword args)).text = text := by
  rw [callText_eq]
  set inner := Bytes.join ", " args with inner_eq
  set src := pass.marker ++ 0x28 :: (inner ++ [0x29]) with src_eq
  have behind : src.drop pass.marker.length = 0x28 :: (inner ++ [0x29]) := List.drop_left
  have length : src.length = pass.marker.length + 1 + inner.length + 1 := by
    rw [src_eq, List.length_append, List.length_cons, List.length_append, List.length_singleton]
    omega
  have extracted : Extent.extract src pass.marker.length
      = .ok ⟨inner, pass.marker.length, pass.marker.length + 1 + inner.length⟩ := by
    refine Extent.extract_eq_ok_iff.mpr ⟨?_, rfl, rfl⟩
    rw [behind]
    exact (Extent.extract_eq_ok_iff.mp (Extent.extract_parentheses nested [])).1
  have occurrence : pass.Occurrence src 0 pass.marker.length := by
    constructor
    case marked =>
      rw [List.drop_zero, src_eq, Bytes.lowerAscii, Bytes.lowerAscii, List.map_append]
      exact List.prefix_append _ _
    case free => exact fun positive => (Nat.lt_irrefl 0 positive).elim
    case behind => omega
    case near => omega
    case blank => omega
    case parenthesis => rw [← List.head?_drop, behind, List.head?_cons]
  let stop : Stop :=
    ⟨0, 0, pass.marker.length,
      some ⟨inner, pass.marker.length, pass.marker.length + 1 + inner.length⟩, src.length,
      pass.build ⟨pass.keyword, inner⟩⟩
  have here : pass.StopsAt src 0 0 stop :=
    ⟨Nat.le_refl 0, fun _ _ _ before => (Nat.not_lt_zero _ before).elim, occurrence,
      ⟨extracted, length, rfl⟩, rfl⟩
  have course : pass.Course src 0 0 [stop] := by
    refine .stop here (.finished fun pos opening beyond other => ?_)
    have inside := other.opening_lt
    have reaches := other.behind
    have end' : stop.finish = src.length := rfl
    omega
  obtain ⟨stops, other, result, -⟩ := sweep_course regular file src
  obtain rfl := other.unique course
  have output : stop.output src = text := by
    rw [Stop.output, reply]
    rfl
  rw [result, List.map_singleton, Patch.splice, Patch.splice, Stop.patch, output,
    List.drop_eq_nil_of_le (Nat.le_refl _), List.append_nil, List.take_zero, List.drop_nil,
    List.nil_append]

end Pass

--------------------------------------------------------------------------------
-- Other passes
--------------------------------------------------------------------------------

/-- The places of a text are searched one by one. -/
theorem Pass.free_of_each {pass : Pass} {text : Bytes}
    (each
      : ∀ start < text.length,
          Bytes.startsWithFold pass.marker (text.drop start) = false
          ∨ CallSite.opening? text (start + pass.marker.length) = none)
    (start opening : Nat)
    : ¬ pass.Occurrence text start opening := by
  intro occurrence
  obtain ⟨marked, -, opens⟩ := occurrence_iff.mp occurrence
  have inside : start < text.length := by
    have reaches := occurrence.behind
    have before := occurrence.opening_lt
    omega
  rcases each start inside with apart | shut
  · rw [apart] at marked
    cases marked
  · rw [shut] at opens
    cases opens

/-- The front of a call of a single field is a call of no other keyword. -/
theorem Rule.front_free {pass other : Pass} (field : pass ∈ Rule.fieldPasses)
    (builtIn : other ∈ Rule.allPasses) (distinct : other.keyword ≠ pass.keyword) (start opening : Nat)
    : ¬ other.Occurrence (pass.marker ++ [0x28]) start opening := by
  have table
      : ∀ pass ∈ Rule.fieldPasses,
          ∀ other ∈ Rule.allPasses,
            other.keyword = pass.keyword
            ∨ ∀ start < (pass.marker ++ [0x28]).length,
                Bytes.startsWithFold other.marker ((pass.marker ++ [0x28]).drop start) = false
                ∨ CallSite.opening? (pass.marker ++ [0x28]) (start + other.marker.length)
                  = none := by
    decide
  exact Pass.free_of_each ((table pass field other builtIn).resolve_left distinct) start opening

/-- A call of another keyword in a call of a single field with quoted strings lies inside one of the
strings.
-/
theorem Rule.occurrence_in_call {pass other : Pass} (field : pass ∈ Rule.fieldPasses)
    (builtIn : other ∈ Rule.allPasses) (distinct : other.keyword ≠ pass.keyword)
    {strings : List Bytes} {start opening : Nat}
    (h : other.Occurrence (callText pass.keyword (strings.map quote)) start opening)
    : ∃ s ∈ strings, ∃ start opening, other.Occurrence (quote s) start opening := by
  have worded := (Rule.marker_of_mem other builtIn).2
  rw [callText_eq] at h
  have parts (rest : Bytes) : pass.marker ++ 0x28 :: rest = pass.marker ++ [0x28] ++ rest := by simp
  rcases h.apart worded rfl with ahead | behind
  · have front := @Pass.Occurrence.slice other start opening [] (pass.marker ++ [0x28])
      (Bytes.join ", " (strings.map quote) ++ [0x29]) (by rwa [List.nil_append, ← parts])
      (Nat.zero_le _) (by simpa using Nat.lt_succ_of_le ahead)
    exact (Rule.front_free field builtIn distinct _ _ front).elim
  · have rest := @Pass.Occurrence.slice other start opening (pass.marker ++ [0x28])
      (Bytes.join ", " (strings.map quote) ++ [0x29]) [] (by rwa [List.append_nil, ← parts])
      (by rw [List.length_append]; exact behind)
      (by rw [← List.length_append, ← parts]; exact h.opening_lt)
    have quoted : ∀ part ∈ strings.map quote, Mixed strings part := by
      intro part member
      obtain ⟨s, known, rfl⟩ := List.mem_map.mp member
      exact .quoted known
    have mixed : Mixed strings (Bytes.join ", " (strings.map quote) ++ [0x29]) :=
      (Mixed.join (by decide) quoted).append (.plain (by decide))
    exact mixed.occurrence worded rest

/-- A pass converts nothing inside some strings: it finds no call in them, or leaves alone every
call that it comes to in the text that has the strings in it.
-/
def Pass.Spares (pass : Pass) (strings : List Bytes) (text : Bytes) : Prop :=
  (∀ s ∈ strings, ∀ start opening, ¬ pass.Occurrence (quote s) start opening) ∨ pass.Leaves text

theorem Pass.Spares.leaves {pass : Pass} {strings : List Bytes} {text : Bytes}
    (spares : pass.Spares strings text)
    (inside
      : ∀ pos opening,
          pass.Occurrence text pos opening
          → ∃ s ∈ strings, ∃ start opening, pass.Occurrence (quote s) start opening)
    : pass.Leaves text := by
  rcases spares with none | leaves
  · refine leaves_of_free fun pos opening occurrence => ?_
    obtain ⟨s, known, start, opening, found⟩ := inside pos opening occurrence
    exact none s known start opening found
  · exact leaves

namespace Rule

/-- Passes that leave a text alone one after another return it. -/
theorem foldl_sweep_of_leaves (file : Bytes) {passes : List Pass}
    (builtIn : ∀ pass ∈ passes, pass ∈ allPasses) {text : Bytes}
    (leaves : ∀ pass ∈ passes, pass.Leaves text)
    : passes.foldl (fun text pass => (pass.sweep file text).text) text = text := by
  rcases foldl_sweep_cases file (fun pass member => regular_of_mem (builtIn pass member)) text with
    ⟨-, same⟩ | ⟨moved, -⟩
  · exact same
  · exact (moved leaves).elim

/-- Strings survive a full run. A call of a single field with quoted strings for arguments becomes
the chain that they are arranged in, if the passes before its own spare the strings in the call and
those behind spare them in the chain. No string that has a place there is lost.
Witness: a pass finds calls of its keyword inside the strings only, and the pass of the call
replaces it as a whole.
-/
theorem full_strings {before behind : List Pass} {pass : Pass}
    (order : allPasses = before ++ pass :: behind) (field : pass ∈ fieldPasses)
    (strings : List Bytes) (file : Bytes)
    (ahead
      : ∀ other ∈ before, other.Spares strings (callText pass.keyword (strings.map quote)))
    (later
      : ∀ other ∈ behind,
          other.Spares strings (Chain.code (arrangement pass.keyword (strings.map quote))))
    : (convertAll builtIn file (callText pass.keyword (strings.map quote))).text
        = Chain.code (arrangement pass.keyword (strings.map quote))
      ∧ (strings.length ≤ arity pass.keyword
        → ∀ s ∈ strings,
            ∃ call ∈ arrangement pass.keyword (strings.map quote), quote s ∈ call.args) := by
  have distinct : (allPasses.map Pass.keyword).Nodup := by decide +kernel
  rw [order, List.map_append, List.map_cons] at distinct
  have apart (other : Pass) (member : other ∈ before) : other.keyword ≠ pass.keyword :=
    (List.nodup_append.mp distinct).2.2 _ (List.mem_map_of_mem member) _ List.mem_cons_self
  have single : ∀ arg ∈ strings.map quote, Argument.Single arg := by
    intro arg member
    obtain ⟨s, -, rfl⟩ := List.mem_map.mp member
    exact quote_single s
  have nested : WellNested (Bytes.join ", " (strings.map quote)) :=
    .join (.of_scan rfl) fun arg member => (single arg member).uncut.nested
  have beforeBuiltIn : ∀ other ∈ before, other ∈ allPasses := fun other member =>
    order ▸ List.mem_append_left _ member
  have behindBuiltIn : ∀ other ∈ behind, other ∈ allPasses := fun other member =>
    order ▸ List.mem_append_right _ (List.mem_cons_of_mem _ member)
  constructor
  · have call := foldl_sweep_of_leaves file beforeBuiltIn fun other member =>
      (ahead other member).leaves fun _ _ =>
        occurrence_in_call field (beforeBuiltIn other member) (apart other member)
    have chain := foldl_sweep_of_leaves file behindBuiltIn fun other member =>
      (later other member).leaves fun _ _ =>
        (mixed_arrangement pass.keyword strings).occurrence
          (marker_of_mem other (behindBuiltIn other member)).2
    have own := Pass.sweep_callText
      (regular_of_mem (order ▸ List.mem_append_right _ List.mem_cons_self : pass ∈ allPasses))
      nested (congrArg Reply.replacement (field_code field _)) file
    rw [Argument.split_join_single single] at own
    rw [show (convertAll builtIn file (callText pass.keyword (strings.map quote))).text
      = full file (callText pass.keyword (strings.map quote)) from rfl, full_eq_foldl, order,
      List.foldl_append, List.foldl_cons, call, own, chain]
  · intro few s member
    obtain ⟨i, inside, rfl⟩ := List.getElem_of_mem member
    obtain ⟨given, attributes⟩ := given?_quoted (List.getElem?_eq_getElem inside)
    exact mem_arrangement (Nat.lt_of_lt_of_le inside few) given attributes

/-- A string that shows a call of the keyword that it is passed to, and has a quote of its own. -/
theorem full_strings_shown
    : (⟨"text", Builder.textInput⟩ : Pass) ∈ fieldPasses
      ∧ (convertAll builtIn "view" "Form::text('Form::text(1) isn\\'t')").text
        = "html()->text('Form::text(1) isn\\'t')" := by
  have order
      : allPasses = allPasses.take 2 ++ ⟨"text", Builder.textInput⟩ :: allPasses.drop 3 := rfl
  have field : (⟨"text", Builder.textInput⟩ : Pass) ∈ fieldPasses := by
    simp [fieldPasses, inputs, textKeywords]
  have table
      : ∀ other ∈ allPasses.take 2 ++ allPasses.drop 3,
          ∀ s ∈ [Bytes.ofString "Form::text(1) isn't"],
            ∀ start < (quote s).length,
              Bytes.startsWithFold other.marker ((quote s).drop start) = false
              ∨ CallSite.opening? (quote s) (start + other.marker.length) = none := by
    decide +kernel
  have spared (other : Pass) (member : other ∈ allPasses.take 2 ++ allPasses.drop 3) (text : Bytes)
      : other.Spares [Bytes.ofString "Form::text(1) isn't"] text :=
    .inl fun s known => Pass.free_of_each (table other member s known)
  have written : callText "text" ([Bytes.ofString "Form::text(1) isn't"].map quote)
      = "Form::text('Form::text(1) isn\\'t')" := by
    decide +kernel
  have chain : Chain.code (arrangement "text" ([Bytes.ofString "Form::text(1) isn't"].map quote))
      = "html()->text('Form::text(1) isn\\'t')" := by
    decide +kernel
  have run := (full_strings order field [Bytes.ofString "Form::text(1) isn't"] "view"
    (fun other member => spared other (List.mem_append_left _ member) _)
    (fun other member => spared other (List.mem_append_right _ member) _)).1
  rw [written, chain] at run
  exact ⟨field, run⟩

/-- A string that shows a call of another keyword is converted with the rest of the text. -/
theorem full_strings_converted
    : (convertAll builtIn "view" (callText "text" ([Bytes.ofString "Form::email(1)"].map quote))).text
        = "html()->text('html()->email(1)')"
      ∧ Chain.code (arrangement "text" ([Bytes.ofString "Form::email(1)"].map quote))
        = "html()->text('Form::email(1)')"
      ∧ (convertAll builtIn "view"
            (callText "text" ([Bytes.ofString "Form::email(1)"].map quote))).text
        ≠ Chain.code (arrangement "text" ([Bytes.ofString "Form::email(1)"].map quote)) := by
  have converted
      : (convertAll builtIn "view"
            (callText "text" ([Bytes.ofString "Form::email(1)"].map quote))).text
        = "html()->text('html()->email(1)')" := by
    decide +kernel
  have chain : Chain.code (arrangement "text" ([Bytes.ofString "Form::email(1)"].map quote))
      = "html()->text('Form::email(1)')" := by
    decide +kernel
  rw [converted, chain]
  exact ⟨rfl, rfl, by decide⟩

end Rule

end FormMigrate
