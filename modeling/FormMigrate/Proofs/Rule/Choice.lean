import FormMigrate.Proofs.Rule.Nesting
import FormMigrate.Proofs.Rule.Selection
import FormMigrate.Proofs.Rule.StaticArrays
import FormMigrate.Proofs.Scan.Arguments

/-! Options that are written out: one for each entry, in order, and no two of them are selected. -/

namespace FormMigrate.Builder

--------------------------------------------------------------------------------
-- Selections without their quotes
--------------------------------------------------------------------------------

/-- A text is what is left of an argument without the quotes at its two ends. -/
structure Unquoted (arg text : Bytes) : Prop where
  parts
    : ∃ front back,
        (∀ c ∈ front, QuoteState.isDelimiter c = true)
        ∧ (∀ c ∈ back, QuoteState.isDelimiter c = true)
        ∧ arg = front ++ (text ++ back)
  first : ∀ c ∈ text.head?, QuoteState.isDelimiter c = false
  last : ∀ c ∈ text.getLast?, QuoteState.isDelimiter c = false

theorem unquote_eq (arg : Bytes)
    : unquote arg = (arg.dropWhile QuoteState.isDelimiter).rdropWhile QuoteState.isDelimiter :=
  rfl

/-- The quotes at the two ends of an argument are all taken away, and nothing else is. -/
theorem unquote_eq_iff {arg text : Bytes} : unquote arg = text ↔ Unquoted arg text := by
  rw [unquote_eq]
  constructor
  · rintro rfl
    have stops := List.head?_dropWhile_not QuoteState.isDelimiter arg
    have parts := List.takeWhile_append_dropWhile (p := QuoteState.isDelimiter) (l := arg)
    have before : ∀ c ∈ arg.takeWhile QuoteState.isDelimiter, QuoteState.isDelimiter c = true :=
      fun c => List.mem_takeWhile_imp
    generalize arg.dropWhile QuoteState.isDelimiter = rest at stops parts
    have whole := @List.rdropWhile_append_rtakeWhile _ QuoteState.isDelimiter rest
    refine ⟨⟨_, rest.rtakeWhile QuoteState.isDelimiter, before, fun c => List.mem_rtakeWhile_imp, ?_⟩,
      fun c first => ?_, fun c last => ?_⟩
    · rw [whole, parts]
    · have same : rest.head? = some c := by
        rw [← whole, List.head?_append, first, Option.some_or]
      rwa [same] at stops
    · have some : rest.rdropWhile QuoteState.isDelimiter ≠ [] := by
        intro empty
        rw [empty] at last
        cases last
      have kept := List.rdropWhile_last_not QuoteState.isDelimiter rest some
      rw [List.getLast?_eq_some_getLast some] at last
      exact Option.some.inj last ▸ Bool.eq_false_iff.mpr kept
  · rintro ⟨⟨front, back, before, behind, rfl⟩, first, last⟩
    have nothing : back.rdropWhile QuoteState.isDelimiter = [] :=
      List.rdropWhile_eq_nil_iff.mpr behind
    rw [List.dropWhile_append_of_pos before]
    rcases List.eq_nil_or_concat text with rfl | ⟨rest, d, rfl⟩
    · rw [List.nil_append, List.dropWhile_eq_nil_iff.mpr behind]
      rfl
    · rw [List.concat_eq_append] at first last ⊢
      have kept : QuoteState.isDelimiter d = false := last d List.getLast?_concat
      have stays : (rest ++ [d] ++ back).dropWhile QuoteState.isDelimiter = rest ++ [d] ++ back := by
        cases rest with
        | nil => exact List.dropWhile_cons_of_neg (Bool.eq_false_iff.mp kept)
        | cons c rest => exact List.dropWhile_cons_of_neg (Bool.eq_false_iff.mp (first c rfl))
      rw [stays, List.append_assoc, List.singleton_append,
        rdropWhile_append_cons (Bool.eq_false_iff.mp kept), nothing]

--------------------------------------------------------------------------------
-- Options
--------------------------------------------------------------------------------

/-- A key is chosen by a selection that is present and, without its quotes, is the text of the key.
-/
def Chosen (selected : Option Bytes) (key : Key) : Prop :=
  ∃ arg, selected = some arg ∧ Unquoted arg key.plain

theorem isSelected_iff {selected : Option Bytes} {key : Key}
    : isSelected selected key = true ↔ Chosen selected key := by
  rw [isSelected, Option.any_eq_true]
  refine exists_congr fun arg => and_congr .rfl ?_
  rw [beq_iff_eq, eq_comm, unquote_eq_iff]

/-- A text is the option of an entry: a call with its label and its key as code, and behind it the
attribute of a selected option exactly if the key is chosen.
-/
def OptionOf (selected : Option Bytes) (entry : Key × Value) (part : Bytes) : Prop :=
  ∃ mark,
    part = "html()->option(" ++ entry.2.code ++ ", " ++ entry.1.code ++ ")" ++ mark
    ∧ (Chosen selected entry.1 ∧ mark = "->attributes(['selected' => 'selected'])"
      ∨ ¬ Chosen selected entry.1 ∧ mark = [])

theorem optionOf_option (selected : Option Bytes) (entry : Key × Value)
    : OptionOf selected entry (option (isSelected selected entry.1) entry.1 entry.2) := by
  refine ⟨_, rfl, ?_⟩
  cases marked : isSelected selected entry.1 with
  | true => exact .inl ⟨isSelected_iff.mp marked, by decide⟩
  | false => exact .inr ⟨fun chosen => Bool.eq_false_iff.mp marked (isSelected_iff.mpr chosen), rfl⟩

/-- An option is one argument of any list. -/
theorem option_single (marked : Bool) (key : Key) (label : Value)
    : Argument.Single (option marked key label) := by
  have callee : Sealed "html()->option" := .of_segments (.of_scan rfl) rfl
  have mark : Sealed selectedLink := .of_segments (.of_scan rfl) (by decide)
  have inside : WellNested (label.code ++ ", " ++ key.code) :=
    label.code_nested.comma key.code_nested
  have text : option false key label
      = Bytes.ofString "html()->option"
        ++ 0x28 :: (label.code ++ Bytes.ofString ", " ++ key.code ++ [0x29]) := by
    simp only [option, Bool.false_eq_true, ↓reduceIte, List.append_nil, List.append_assoc]
    rfl
  have call : Sealed (option false key label) := text ▸ callee.append (.bracketed rfl inside)
  have marks : option true key label = option false key label ++ selectedLink := by simp [option]
  have last : (option marked key label).getLast? = some 0x29 := by
    cases marked with
    | false =>
        rw [text, ← List.cons_append, ← List.append_assoc]
        exact List.getLast?_concat
    | true =>
        rw [marks, List.getLast?_append]
        rfl
  have whole : Sealed (option marked key label) := by
    cases marked with
    | false => exact call
    | true => exact marks ▸ call.append mark
  exact .of_edges whole (show _ = some 0x68 from rfl) last rfl rfl

/-- No two entries of an evaluated array are chosen: their keys are told apart by their texts. -/
theorem chosen_once {selected : Option Bytes} {entries : Entries}
    (settled : (Value.array entries).Settled) {i j : Nat} (first : i < entries.length)
    (second : j < entries.length) (chosen : Chosen selected entries[i].1)
    (chosen' : Chosen selected entries[j].1)
    : i = j := by
  obtain ⟨arg, rfl, text⟩ := chosen
  obtain ⟨_, same, text'⟩ := chosen'
  obtain rfl := Option.some.inj same
  have plain : entries[i].1.plain = entries[j].1.plain :=
    (unquote_eq_iff.mpr text).symm.trans (unquote_eq_iff.mpr text')
  have cast (k : Nat) (inside : k < entries.length) : entries[k].1.Settled :=
    Literal.settled_of_mem_keys settled.2 (List.mem_map_of_mem (List.getElem_mem inside))
  have keys := (cast i first).plain_inj (cast j second) plain
  have inKeys {k : Nat} (inside : k < entries.length) : k < (entries.map Prod.fst).length := by
    rwa [List.length_map]
  refine (@List.Nodup.getElem_inj_iff _ _ settled.1 i (inKeys first) j (inKeys second)).mp ?_
  rwa [List.getElem_map, List.getElem_map]

/-- Options that evaluate to an array without groups are written out, one for each entry in order,
and at most one of them is selected.
Witness: such options look like a literal; the texts of the keys of an evaluated array differ.
-/
theorem select_chooses {site : CallSite} {entries : Entries}
    (evaluated : Literal.evaluate (site.orElse 1 "[]") = .ok (.array entries))
    (ungrouped : ∀ entry ∈ entries, entry.2.IsScalar)
    : ∃ parts,
        select site
          = .accept
              (selectHead site ++ link "children" ("[" ++ Bytes.join ", " parts ++ "]")
                ++ linkFor "attributes" (site.attributes? 3))
        ∧ Argument.split (Bytes.join ", " parts) = parts
        ∧ List.Forall₂ (OptionOf (site.optional? 2)) entries parts
        ∧ ∀ i j,
            ∀ (first : i < entries.length) (second : j < entries.length),
              Chosen (site.optional? 2) entries[i].1
                → Chosen (site.optional? 2) entries[j].1
                → i = j := by
  have single : hasGroups entries = false := by
    rw [hasGroups, List.any_eq_false]
    rintro ⟨key, value⟩ member
    have scalar := ungrouped _ member
    cases value with
    | array inner => exact (scalar inner rfl).elim
    | _ => simp
  have written : WritesOut site entries :=
    ⟨Literal.looksLiteral_of_evaluate evaluated, evaluated, single⟩
  obtain ⟨-, _, _, _, -, spells, -⟩ := Literal.evaluate_eq_ok_iff.mp evaluated
  refine ⟨_, select_of_writesOut written, ?_, ?_,
    fun i j first second => chosen_once spells.settled first second⟩
  · refine Argument.split_join_single fun part member => ?_
    obtain ⟨entry, -, rfl⟩ := List.mem_map.mp member
    exact option_single _ _ _
  · rw [List.forall₂_map_right_iff, List.forall₂_same]
    exact fun entry _ => optionOf_option _ entry

/-- Of the keys `5` and `'05'` a quoted selection takes the one that it spells. -/
theorem select_chooses_spelled
    : Literal.evaluate (CallSite.orElse ⟨"select", "'n', [5 => 'B', '05' => null], '5'"⟩ 1 "[]")
        = .ok (.array [(.int 5, .text "B"), (.text "05", .null)])
      ∧ (∀ entry ∈ [(Key.int 5, Value.text "B"), (Key.text "05", Value.null)], entry.2.IsScalar)
      ∧ Chosen (CallSite.optional? ⟨"select", "'n', [5 => 'B', '05' => null], '5'"⟩ 2) (.int 5)
      ∧ ¬ Chosen (CallSite.optional? ⟨"select", "'n', [5 => 'B', '05' => null], '5'"⟩ 2) (.text "05")
      ∧ ∃ parts,
          select ⟨"select", "'n', [5 => 'B', '05' => null], '5'"⟩
            = .accept
                (selectHead ⟨"select", "'n', [5 => 'B', '05' => null], '5'"⟩
                  ++ link "children" ("[" ++ Bytes.join ", " parts ++ "]")
                  ++ linkFor "attributes" none)
          ∧ parts.length = 2 := by
  have expr : CallSite.orElse ⟨"select", "'n', [5 => 'B', '05' => null], '5'"⟩ 1 "[]"
      = Bytes.ofString "[5 => 'B', '05' => null]" := by
    decide +kernel
  have value : Literal.evaluate "[5 => 'B', '05' => null]"
      = .ok (.array [(.int 5, .text "B"), (.text "05", .null)]) := by
    cbv
  have evaluated := (congrArg Literal.evaluate expr).trans value
  have scalar
      : ∀ entry ∈ [(Key.int 5, Value.text "B"), (Key.text "05", Value.null)], entry.2.IsScalar := by
    rw [List.forall_mem_cons, List.forall_mem_singleton]
    constructor <;> (rintro inner ⟨⟩)
  obtain ⟨parts, written, -, each, -⟩ := select_chooses evaluated scalar
  refine ⟨evaluated, scalar, isSelected_iff.mp (by decide +kernel), fun chosen => ?_, parts, written,
    each.length_eq.symm⟩
  exact absurd (isSelected_iff.mpr chosen) (by decide +kernel)

end FormMigrate.Builder
