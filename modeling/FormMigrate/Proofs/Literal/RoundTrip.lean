import FormMigrate.Proofs.Literal.Acceptance
import FormMigrate.Proofs.Literal.Decimals
import FormMigrate.Proofs.Literal.Tables
import Mathlib

/-! Evaluation undoes printing: the code of a value that was read spells the value again, unless an
infinite number is in it, which has no literal.
-/

namespace FormMigrate

mutual

/-- Whether an infinite number is in a value. -/
def Value.hasInfinity : Value → Bool
  | .float (.infinity _) => true
  | .array entries => entriesHaveInfinity entries
  | _ => false

/-- Whether an infinite number is in a value of some entry. -/
def entriesHaveInfinity : List (Key × Value) → Bool
  | [] => false
  | (_, value) :: rest => value.hasInfinity || entriesHaveInfinity rest

end

namespace Literal

--------------------------------------------------------------------------------
-- Quoted texts
--------------------------------------------------------------------------------

/-- Escaped text stands between single quotes. -/
theorem stringBody_escaped (s : Bytes) : StringBody 0x27 (s.flatMap quoteByte) := by
  induction s with
  | nil => exact .nil
  | cons c rest ih =>
      rw [List.flatMap_cons, quoteByte]
      split
      · exact .escaped c ih
      · rename_i plain
        simp only [Bool.or_eq_true, beq_iff_eq, not_or] at plain
        exact .plain plain.1 plain.2 nofun ih

/-- Escaped text means the text, for any bytes. -/
theorem singleContent_escaped (s : Bytes) : singleContent (s.flatMap quoteByte) = s := by
  induction s with
  | nil => rfl
  | cons c rest ih =>
      rw [List.flatMap_cons, quoteByte]
      split
      · rename_i special
        simp only [Bool.or_eq_true, beq_iff_eq] at special
        rcases special with rfl | rfl
        · rw [List.cons_append, List.singleton_append, singleContent, ih]
        · rw [List.cons_append, List.singleton_append, singleContent, ih]
      · rename_i plain
        simp only [Bool.or_eq_true, beq_iff_eq, not_or] at plain
        rw [List.singleton_append, singleContent, ih]
        · exact fun _ bare => (plain.2 bare).elim
        · exact fun _ bare => (plain.2 bare).elim

theorem quote_spells (s : Bytes) : Spells (quote s) (.text s) := by
  have spells := Spells.single (stringBody_escaped s)
  rwa [singleContent_escaped] at spells

--------------------------------------------------------------------------------
-- Numbers and keys
--------------------------------------------------------------------------------

theorem ofInt_spells (n : Int64) : Spells (Bytes.ofInt n.toInt) (.int n) :=
  .numeral (ofInt_starts n.toInt) (number_ofInt n)

/-- A finite number is written as a numeral for it, zeros of either sign included. -/
theorem finite_spells (x : Finite64)
    : Spells (Binary64.code (.finite x)) (.float (.finite x)) := by
  obtain ⟨s, n, e, code, shape, worth⟩ := code_fractionText x
  rw [code]
  obtain ⟨nonempty, digit⟩ := shape.head
  exact .numeral (startsNumber_printed x.negative nonempty digit) (shape.number_eq worth)

theorem Key.code_spells (key : Key) : Spells key.code key.value := by
  cases key with
  | int n => exact ofInt_spells n
  | text s => exact quote_spells s

--------------------------------------------------------------------------------
-- Arrays
--------------------------------------------------------------------------------

/-- A text spells an item wherever blanks stand before it. -/
def SpellsBehind (text : Bytes) (item : Item) : Prop :=
  ∀ front, Blank front → SpellsItem (front ++ text) item

/-- Texts of items with commas between them spell the items. -/
theorem join_spells {texts : List Bytes} {items : List Item}
    (each : List.Forall₂ SpellsBehind texts items) {front : Bytes} (blank : Blank front)
    : SpellsItems (front ++ Bytes.join ", " texts) items := by
  induction each generalizing front with
  | nil =>
      rw [Bytes.join, List.intercalate_nil, List.append_nil]
      exact .none blank
  | @cons text item _ _ first rest ih =>
      cases rest with
      | nil =>
          rw [Bytes.join, List.intercalate_singleton]
          exact .last (first front blank)
      | cons second rest =>
          have space : Blank [0x20] := List.forall_mem_singleton.mpr rfl
          have comma : Bytes.ofString ", " = [0x2c, 0x20] := by decide
          have parts := SpellsItems.more (first front blank) (ih space)
          rw [Bytes.join] at parts
          rw [Bytes.join, List.intercalate_cons_cons]
          simpa [comma, List.append_assoc] using parts

/-- An entry is written as its item, given that its value is spelled. -/
theorem entry_spells {key : Key} {value : Value} (cast : key.Settled)
    (spells : Spells value.code value) (bare : Bool)
    : SpellsBehind (if bare then value.code else key.code ++ " => " ++ value.code)
        (itemOf bare (key, value)) := by
  intro front blank
  cases bare with
  | true =>
      have item : SpellsItem (front ++ (value.code ++ [])) ⟨none, value⟩ :=
        .positional blank spells nofun
      rwa [List.append_nil] at item
  | false =>
      have space : Blank [0x20] := List.forall_mem_singleton.mpr rfl
      have arrow : Bytes.ofString " => " = [0x20, 0x3d, 0x3e, 0x20] := by decide
      have item
          : SpellsItem
              (front ++ (key.code ++ ([0x20] ++ 0x3d :: 0x3e :: ([0x20] ++ (value.code ++ [])))))
              ⟨some key, value⟩ :=
        .keyed blank (Key.code_spells key) (Value.standsFor_iff.mpr cast) space space spells nofun
      simpa [arrow, itemOf] using item

mutual

/-- The code of a settled value spells it, by induction on the value and its entries. -/
theorem code_spells : (v : Value) → v.Settled → v.hasInfinity = false → Spells v.code v
  | .null, _, _ => .word rfl
  | .bool true, _, _ => .word rfl
  | .bool false, _, _ => .word rfl
  | .int n, _, _ => ofInt_spells n
  | .float (.finite x), _, _ => finite_spells x
  | .float (.infinity _), _, finite => nomatch finite
  | .text s, _, _ => quote_spells s
  | .array entries, settled, finite => by
      have each := entriesCode_spells (Entries.isList entries) entries settled.2 finite
      have unpadded : Blank [] := nofun
      have spells := Spells.brackets (join_spells each unpadded)
      rwa [arrayOf_entries settled.1] at spells

theorem entriesCode_spells (bare : Bool)
    : (entries : List (Key × Value))
      → EntriesSettled entries
      → entriesHaveInfinity entries = false
      → List.Forall₂ SpellsBehind (entriesCode bare entries) (entries.map (itemOf bare))
  | [], _, _ => .nil
  | (key, value) :: rest, ⟨cast, inside, behind⟩, finite => by
      rw [entriesHaveInfinity, Bool.or_eq_false_iff] at finite
      have first := entry_spells cast (code_spells value inside finite.1) bare
      exact .cons first (entriesCode_spells bare rest behind finite.2)

end

/-- Evaluation undoes printing: a value that evaluation gave is given back, scalar by scalar and
entry by entry, for the code that it is printed as.
-/
theorem evaluate_code {expr : Bytes} {v : Value} (evaluated : evaluate expr = .ok v)
    (static : ∀ marker ∈ codeMarkers, Bytes.occursIn marker (Bytes.lower v.code) = false)
    (finite : v.hasInfinity = false)
    : evaluate v.code = .ok v := by
  obtain ⟨-, -, s, -, -, spelled, -⟩ := evaluate_eq_ok_iff.mp evaluated
  have spells := code_spells v spelled.settled finite
  have unpadded : Blank [] := nofun
  exact evaluate_eq_ok_iff.mpr ⟨static, [], v.code, [], unpadded, spells, unpadded, by simp⟩

/-- A negative zero, an escaped quote, the least word, a cast key and a value without a key. -/
theorem evaluate_code_entries
    : ∃ v,
        evaluate "array('b' => [-0.0, 'it\\'s'], '7' => -0x8000000000000000, NULL)" = .ok v
        ∧ v.code = "['b' => [-0.0, 'it\\'s'], 7 => -9223372036854775808, 8 => null]"
        ∧ evaluate v.code = .ok v := by
  have evaluated
      : evaluate "array('b' => [-0.0, 'it\\'s'], '7' => -0x8000000000000000, NULL)"
        = .ok (.array
            [(.text "b", .array [(.int 0, .float (Binary64.zero true)), (.int 1, .text "it's")]),
              (.int 7, .int (Int64.ofInt (-9223372036854775808))), (.int 8, .null)]) := by
    cbv
  exact ⟨_, evaluated, by decide +kernel, evaluate_code evaluated (by decide +kernel) rfl⟩

end Literal

end FormMigrate
