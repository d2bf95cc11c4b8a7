import FormMigrate.Focus
import FormMigrate.Proofs.Text.Uppercase
import FormMigrate.Settings

/-! Focus tokens: which texts are one, and the tokens of a comma-separated list. -/

namespace FormMigrate.Focus

--------------------------------------------------------------------------------
-- Spellings of tokens
--------------------------------------------------------------------------------

/-- A token that selects a rule: an accepted one, whatever its case and the white space around it.
-/
def Known (token : Bytes) : Prop := Bytes.upper (Bytes.trim token) ∈ tokens

instance (token : Bytes) : Decidable (Known token) :=
  inferInstanceAs (Decidable (_ ∈ tokens))

/-- Exactly the known tokens select a rule, by the keys of the table. -/
theorem known_iff {token : Bytes} : Known token ↔ ∃ name, ruleName? token = some name := by
  rw [Known, tokens, ← Option.isSome_iff_exists, ruleName?, List.lookup_isSome_iff, List.mem_map]
  refine exists_congr fun entry => and_congr_right fun _ => ?_
  rw [beq_iff_eq, eq_comm]

theorem ruleName?_eq_none_iff {token : Bytes} : ruleName? token = none ↔ ¬ Known token := by
  rw [known_iff, ← Option.isSome_iff_exists, Option.not_isSome_iff_eq_none]

/-- A word with white space around it. -/
def Padded (word token : Bytes) : Prop :=
  ∃ ahead behind, Bytes.White ahead ∧ Bytes.White behind ∧ token = ahead ++ (word ++ behind)

theorem Padded.trim_eq {word token : Bytes} (padded : Padded word token)
    : Bytes.trim token = Bytes.trim word := by
  obtain ⟨ahead, behind, white, white', rfl⟩ := padded
  exact Bytes.trim_between white white' word

/-- Two spellings of one token: they differ in the case of ASCII letters and in the white space
around it.
-/
def Respelled (token other : Bytes) : Prop :=
  ∃ word word', Padded word token ∧ Padded word' other
    ∧ Bytes.lowerAscii word = Bytes.lowerAscii word'

/-- Two spellings have the same letters once they are trimmed. -/
theorem respelled_iff {token other : Bytes}
    : Respelled token other
      ↔ Bytes.lowerAscii (Bytes.trim token) = Bytes.lowerAscii (Bytes.trim other) := by
  constructor
  · rintro ⟨word, word', padded, padded', same⟩
    rw [padded.trim_eq, padded'.trim_eq, ← Bytes.unitwise_lowerAscii.trim, same,
      Bytes.unitwise_lowerAscii.trim]
  · intro same
    have padded (s : Bytes) : Padded (Bytes.trim s) s := by
      obtain ⟨ahead, behind, white, white', parts⟩ := Bytes.trim_parts s
      exact ⟨ahead, behind, white, white', by rw [← List.append_assoc, ← parts]⟩
    exact ⟨Bytes.trim token, Bytes.trim other, padded token, padded other, same⟩

instance (token other : Bytes) : Decidable (Respelled token other) :=
  decidable_of_iff _ respelled_iff.symm

/-- A token selects the same rule in every spelling. -/
theorem Respelled.ruleName?_eq {token other : Bytes} (respelled : Respelled token other)
    : ruleName? token = ruleName? other := by
  have same := Bytes.upper_trim_congr (respelled_iff.mp respelled)
  rw [Bytes.trim_trim, Bytes.trim_trim] at same
  rw [ruleName?, ruleName?, same]

--------------------------------------------------------------------------------
-- Parsed tokens
--------------------------------------------------------------------------------

/-- What the accepted tokens have in common: a word in upper case that a list can hold. -/
theorem tokens_spelling
    : ∀ token ∈ tokens,
        token ≠ [] ∧ 0x2c ∉ token ∧ Bytes.trim token = token ∧ Bytes.upper token = token
        ∧ Settings.isWord token = true := by
  decide

/-- A parsed token is in upper case and has nothing to trim.
Witness: upper case keeps white space, so that what was trimmed stays so.
-/
theorem normal_of_mem_parse {s token : Bytes} (member : token ∈ parse s)
    : Bytes.upper (Bytes.trim token) = token := by
  obtain ⟨part, -, made⟩ := List.mem_filterMap.mp member
  dsimp only at made
  split at made
  · cases made
  · cases made
    rw [Bytes.unitwise_upper.trim, Bytes.trim_trim, Bytes.upper_upper]

/-- Among parsed tokens the known ones are the accepted ones themselves. -/
theorem known_iff_of_mem_parse {s token : Bytes} (member : token ∈ parse s)
    : Known token ↔ token ∈ tokens := by
  rw [Known, normal_of_mem_parse member]

/-- A list of accepted tokens is parsed as it was joined. -/
theorem parse_join {focus : List Bytes} (accepted : ∀ token ∈ focus, token ∈ tokens)
    : parse (Bytes.join [0x2c] focus) = focus := by
  cases focus with
  | nil => rfl
  | cons first rest =>
      have apart : ∀ token ∈ first :: rest, 0x2c ∉ token := fun token member =>
        (tokens_spelling token (accepted token member)).2.1
      rw [parse, Bytes.split, Bytes.join, List.splitOn_intercalate 0x2c apart (List.cons_ne_nil _ _)]
      refine (List.filterMap_congr fun token member => ?_).trans List.filterMap_some
      obtain ⟨some, -, trimmed, upper, -⟩ := tokens_spelling token (accepted token member)
      dsimp only
      rw [trimmed, upper, if_neg (by simpa using some)]

end FormMigrate.Focus
