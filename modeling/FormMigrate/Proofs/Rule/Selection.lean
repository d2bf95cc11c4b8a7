import FormMigrate.Proofs.Rule.Replies
import Mathlib

/-! What becomes of the selection of a select field: it is linked where options are mapped when the
page is rendered, and compared with their keys where they are written out.
-/

namespace FormMigrate

--------------------------------------------------------------------------------
-- Joined texts
--------------------------------------------------------------------------------

theorem Bytes.length_join (sep : Bytes) (parts : List Bytes)
    : (Bytes.join sep parts).length
      = (parts.map List.length).sum + sep.length * (parts.length - 1) := by
  induction parts with
  | nil => simp [Bytes.join]
  | cons first others ih =>
      cases others with
      | nil => simp [Bytes.join]
      | cons second others =>
          simp only [Bytes.join] at ih
          rw [Bytes.join, List.intercalate_cons_cons, List.length_append, List.length_append, ih]
          simp only [List.map_cons, List.sum_cons, List.length_cons, Nat.add_sub_cancel,
            Nat.mul_succ]
          omega

/-- What a builder reads of an argument depends on that argument alone. -/
theorem CallSite.optional?_congr {site other : CallSite} {i : Nat}
    (same : other.args[i]? = site.args[i]?)
    : other.optional? i = site.optional? i := by
  rw [CallSite.optional?, CallSite.optional?, same]

namespace Builder

--------------------------------------------------------------------------------
-- The two ways of writing options
--------------------------------------------------------------------------------

/-- The options of a select field are written out one by one: they look like a literal, and it is an
array without groups.
-/
structure WritesOut (site : CallSite) (entries : Entries) : Prop where
  literal : looksLiteral (site.orElse 1 "[]") = true
  evaluated : Literal.evaluate (site.orElse 1 "[]") = .ok (.array entries)
  ungrouped : hasGroups entries = false

/-- The call of a select field that its name alone decides. -/
def selectHead (site : CallSite) : Bytes := "html()->select(" ++ site.orElse 0 "''" ++ ")"

theorem staticOptions_eq_ok_iff {site : CallSite} {entries : Entries}
    : staticOptions (site.orElse 1 "[]") = .ok entries ↔ WritesOut site entries := by
  constructor
  · intro static
    unfold staticOptions at static
    split at static
    · rename_i literal
      split at static
      · cases static
      · rename_i found evaluated
        split at static
        · cases static
        · rename_i single
          cases static
          exact ⟨literal, evaluated, by simpa using single⟩
      · cases static
    · cases static
  · rintro ⟨literal, evaluated, single⟩
    simp only [staticOptions, literal, evaluated, single, Bool.false_eq_true, ↓reduceIte]

/-- Where options are written out, the chain has no link for the selection. -/
theorem select_of_writesOut {site : CallSite} {entries : Entries} (static : WritesOut site entries)
    : select site
      = .accept
          (selectHead site ++ link "children" (options (site.optional? 2) entries)
            ++ linkFor "attributes" (site.attributes? 3)) := by
  rw [select, staticOptions_eq_ok_iff.mpr static]
  rfl

/-- Anywhere else the selection has a link of its own, and there is a remark if the options look
like a literal.
-/
theorem select_of_maps {site : CallSite} (mapped : ∀ entries, ¬ WritesOut site entries)
    : (select site).replacement
        = some
            (selectHead site ++ link "children" (collected (site.orElse 1 "[]"))
              ++ linkFor "value" (site.optional? 2) ++ linkFor "attributes" (site.attributes? 3))
      ∧ ((select site).notes ≠ [] ↔ looksLiteral (site.orElse 1 "[]") = true) := by
  constructor
  · cases static : staticOptions (site.orElse 1 "[]") with
    | ok entries => exact (mapped entries (staticOptions_eq_ok_iff.mp static)).elim
    | error note =>
        rw [select, static]
        rfl
  · obtain ⟨-, -, -, remark⟩ := select_reply site
    refine remark.trans ⟨fun fallsBack => fallsBack.1, fun literal => ⟨literal, ?_⟩⟩
    intro entries evaluated
    by_contra single
    exact mapped entries ⟨literal, evaluated, by simpa using single⟩

--------------------------------------------------------------------------------
-- The trace of a selection
--------------------------------------------------------------------------------

theorem length_option_le (selected : Bool) (key : Key) (label : Value)
    : (option false key label).length ≤ (option selected key label).length := by
  cases selected <;> simp [option]

/-- An option that is marked as selected is longer. -/
theorem length_option_lt (key : Key) (label : Value)
    : (option false key label).length < (option true key label).length := by
  have marked : 0 < selectedLink.length := by decide
  simp only [option, Bool.false_eq_true, ↓reduceIte, List.append_nil, List.length_append]
  omega

/-- A selection shows in the options that are written out exactly where it is the key of one of
them.
Witness: the option that it marks is longer, and no other one is shorter.
-/
theorem options_eq_iff {s : Bytes} {entries : Entries}
    : options none entries = options (some s) entries
      ↔ ∀ entry ∈ entries, entry.1.plain ≠ unquote s := by
  have mark (key : Key) : isSelected (some s) key = true ↔ key.plain = unquote s := by
    simp [isSelected]
  constructor
  · intro same entry member selected
    have longer
        : ((entries.map fun entry => option false entry.1 entry.2).map List.length).sum
          < ((entries.map fun entry =>
              option (isSelected (some s) entry.1) entry.1 entry.2).map List.length).sum := by
      rw [List.map_map, List.map_map]
      refine List.sum_lt_sum _ _ (fun entry _ => length_option_le _ _ _) ⟨entry, member, ?_⟩
      simp only [Function.comp_apply, (mark entry.1).mpr selected]
      exact length_option_lt _ _
    have lengths := congrArg List.length same
    simp only [options, List.length_append, Bytes.length_join, List.length_map] at lengths
    simp only [isSelected, Option.any_none] at lengths longer
    omega
  · intro other
    have unmarked : ∀ entry ∈ entries, isSelected (some s) entry.1 = false := fun entry member =>
      Bool.eq_false_iff.mpr fun selected => other entry member ((mark entry.1).mp selected)
    refine congrArg (fun parts => "[" ++ Bytes.join ", " parts ++ "]")
      (List.map_congr_left fun entry member => ?_)
    show option false entry.1 entry.2 = option (isSelected (some s) entry.1) entry.1 entry.2
    rw [unmarked entry member]

/-- A selection of a select field is linked, and so decided when the page is rendered, unless the
options are written out. Then it is compared with the text of their keys: the call is answered
without a remark, and as if nothing were selected exactly when no key is the selection without its
quotes.
Witness: the two ways of writing options, and the trace of a selection in written ones.
-/
theorem select_keeps_selection {site : CallSite} {s : Bytes} (present : site.optional? 2 = some s)
    : ((∀ entries, ¬ WritesOut site entries)
        → (select site).replacement
            = some
                (selectHead site ++ link "children" (collected (site.orElse 1 "[]"))
                  ++ link "value" s ++ linkFor "attributes" (site.attributes? 3)))
      ∧ ∀ entries,
          WritesOut site entries
          → select site
              = .accept
                  (selectHead site ++ link "children" (options (some s) entries)
                    ++ linkFor "attributes" (site.attributes? 3))
            ∧ ∀ other : CallSite,
                other.optional? 2 = none
                → (∀ i, i ≠ 2 → other.args[i]? = site.args[i]?)
                → (select other = select site ↔ ∀ entry ∈ entries, entry.1.plain ≠ unquote s) := by
  constructor
  · intro mapped
    have text := (select_of_maps mapped).1
    rw [present] at text
    exact text
  · intro entries static
    have text := select_of_writesOut static
    rw [present] at text
    refine ⟨text, fun other absent same => ?_⟩
    have alike (i : Nat) (apart : i ≠ 2) : other.optional? i = site.optional? i :=
      CallSite.optional?_congr (same i apart)
    have name : selectHead other = selectHead site := by
      rw [selectHead, selectHead, CallSite.orElse, CallSite.orElse, alike 0 (by decide)]
    have expr : other.orElse 1 "[]" = site.orElse 1 "[]" := by
      rw [CallSite.orElse, CallSite.orElse, alike 1 (by decide)]
    have attributes : other.attributes? 3 = site.attributes? 3 := by
      rw [CallSite.attributes?, CallSite.attributes?, alike 3 (by decide)]
    have static' : WritesOut other entries :=
      ⟨expr ▸ static.literal, expr ▸ static.evaluated, static.ungrouped⟩
    rw [text, select_of_writesOut static', absent, name, attributes, ← options_eq_iff]
    simp only [Reply.accept, Reply.mk.injEq, Option.some.injEq, and_true, List.append_left_inj,
      List.append_right_inj, link]

/-- A run-time selection beside options that are mapped and beside options that are written out, one
of whose keys looks like it.
-/
theorem select_keeps_selection_variable
    : CallSite.optional? ⟨"select", "'n', $all, $x"⟩ 2 = some (Bytes.ofString "$x")
      ∧ (select ⟨"select", "'n', $all, $x"⟩).replacement
        = some
            (selectHead ⟨"select", "'n', $all, $x"⟩
              ++ link "children" (collected (CallSite.orElse ⟨"select", "'n', $all, $x"⟩ 1 "[]"))
              ++ link "value" "$x" ++ linkFor "attributes" none)
      ∧ CallSite.optional? ⟨"select", "'n', ['$x' => 'A'], $x"⟩ 2 = some (Bytes.ofString "$x")
      ∧ select ⟨"select", "'n', ['$x' => 'A']"⟩
        ≠ select ⟨"select", "'n', ['$x' => 'A'], $x"⟩ := by
  have linked : CallSite.optional? ⟨"select", "'n', $all, $x"⟩ 2 = some (Bytes.ofString "$x") := by
    decide +kernel
  have dynamic : looksLiteral (CallSite.orElse ⟨"select", "'n', $all, $x"⟩ 1 "[]") = false := by
    decide +kernel
  have compared
      : CallSite.optional? ⟨"select", "'n', ['$x' => 'A'], $x"⟩ 2 = some (Bytes.ofString "$x") := by
    decide +kernel
  have keys
      : (staticOptions (CallSite.orElse ⟨"select", "'n', ['$x' => 'A'], $x"⟩ 1 "[]")).toOption.map
          (List.map Prod.fst)
        = some [.text "$x"] := by
    decide +kernel
  obtain ⟨entries, ok, texts⟩ := Option.map_eq_some_iff.mp keys
  have static
      : staticOptions (CallSite.orElse ⟨"select", "'n', ['$x' => 'A'], $x"⟩ 1 "[]")
        = .ok entries := by
    cases reply : staticOptions (CallSite.orElse ⟨"select", "'n', ['$x' => 'A'], $x"⟩ 1 "[]") with
    | ok found =>
        rw [reply] at ok
        exact congrArg Except.ok (Option.some.inj ok)
    | error note =>
        rw [reply] at ok
        cases ok
  refine ⟨linked, ?_, compared, fun untraced => ?_⟩
  · refine (select_keeps_selection linked).1 fun entries written => ?_
    rw [written.literal] at dynamic
    cases dynamic
  · obtain ⟨-, trace⟩ :=
      (select_keeps_selection compared).2 _ (staticOptions_eq_ok_iff.mp static)
    have shorter : ∀ i, i ≠ 2 → (CallSite.args ⟨"select", "'n', ['$x' => 'A']"⟩)[i]?
        = (CallSite.args ⟨"select", "'n', ['$x' => 'A'], $x"⟩)[i]? := by
      have args : CallSite.args ⟨"select", "'n', ['$x' => 'A'], $x"⟩
          = CallSite.args ⟨"select", "'n', ['$x' => 'A']"⟩ ++ [Bytes.ofString "$x"] := by
        decide +kernel
      have two : (CallSite.args ⟨"select", "'n', ['$x' => 'A']"⟩).length = 2 := by decide +kernel
      intro i apart
      rw [args]
      by_cases inside : i < 2
      · rw [List.getElem?_append_left (by omega)]
      · rw [List.getElem?_append_right (by omega), List.getElem?_eq_none (by omega),
          List.getElem?_eq_none (by simp; omega)]
    have other := (trace ⟨"select", "'n', ['$x' => 'A']"⟩ (by decide +kernel) shorter).mp untraced
    obtain ⟨entry, member, key⟩ := List.mem_map.mp (texts ▸ List.mem_singleton_self _)
    exact other entry member (key ▸ by decide +kernel)

/-- A run-time selection leaves no trace where the options are written out and none of their keys
looks like it: the chain is that of a select field without a selection, and there is no remark.
-/
theorem select_not_keeps_selection
    : CallSite.optional? ⟨"select", "'n', ['a' => 'A'], $x"⟩ 2 = some (Bytes.ofString "$x")
      ∧ (∃ error, Literal.evaluate "$x" = .error error)
      ∧ (select ⟨"select", "'n', ['a' => 'A'], $x"⟩).replacement
        = some "html()->select('n')->children([html()->option('A', 'a')])"
      ∧ (select ⟨"select", "'n', ['a' => 'A'], $x"⟩).notes = [] := by
  have failed : (Literal.evaluate "$x").toOption.isNone = true := by decide +kernel
  refine ⟨by decide +kernel, ?_, by decide +kernel, by decide +kernel⟩
  cases read : Literal.evaluate "$x" with
  | ok value =>
      rw [read] at failed
      cases failed
  | error error => exact ⟨error, rfl⟩

end Builder

end FormMigrate
