import FormMigrate.Proofs.Focus.Token

/-! From a focus list to the rules of a run: the one outcome of both checks, the rules that a list
selects in all its spellings, and the names that registrations keep apart.
-/

namespace FormMigrate

namespace Focus

--------------------------------------------------------------------------------
-- Checked lists
--------------------------------------------------------------------------------

theorem ruleNames_cons (token : Bytes) (rest : List Bytes)
    : ruleNames (token :: rest)
      = match ruleName? token with
        | some name => (ruleNames rest).map (name :: ·)
        | none => .error ⟨token⟩ := by
  rw [ruleNames, List.mapM_cons]
  cases ruleName? token with
  | none => rfl
  | some name =>
      show (ruleNames rest >>= fun names => pure (name :: names)) = _
      cases ruleNames rest <;> rfl

/-- A token of a list that selects no rule, behind tokens that all do. -/
def FirstUnknown (focus : List Bytes) (token : Bytes) : Prop :=
  ∃ known rest, focus = known ++ token :: rest ∧ (∀ other ∈ known, Known other) ∧ ¬ Known token

theorem firstUnknown_cons {token first : Bytes} {rest : List Bytes}
    : FirstUnknown (first :: rest) token
      ↔ (¬ Known first ∧ first = token) ∨ (Known first ∧ FirstUnknown rest token) := by
  constructor
  · rintro ⟨known, behind, parts, before, unknown⟩
    cases known with
    | nil =>
        cases parts
        exact .inl ⟨unknown, rfl⟩
    | cons other known =>
        cases parts
        rw [List.forall_mem_cons] at before
        exact .inr ⟨before.1, known, behind, rfl, before.2, unknown⟩
  · rintro (⟨unknown, rfl⟩ | ⟨known, before, behind, rfl, each, unknown⟩)
    · exact ⟨[], rest, rfl, List.forall_mem_nil _, unknown⟩
    · exact ⟨first :: before, behind, rfl, List.forall_mem_cons.mpr ⟨known, each⟩, unknown⟩

/-- The lookups of a list fail at its first unknown token, by induction on the list. -/
theorem ruleNames_error_iff {focus : List Bytes} {e : UnknownFocus}
    : ruleNames focus = .error e ↔ FirstUnknown focus e.token := by
  induction focus with
  | nil => simp [ruleNames, FirstUnknown, pure, Except.pure]
  | cons token rest ih =>
      rw [ruleNames_cons, firstUnknown_cons, ← ih]
      cases found : ruleName? token with
      | none =>
          have unknown := ruleName?_eq_none_iff.mp found
          cases e
          simp [unknown]
      | some name =>
          have known : Known token := known_iff.mpr ⟨name, found⟩
          cases ruleNames rest <;> simp [known, Except.map]

/-- The lookups of a list succeed with one name for each token, by induction on the list. -/
theorem ruleNames_ok_iff {focus names : List Bytes}
    : ruleNames focus = .ok names ↔ focus.map ruleName? = names.map some := by
  induction focus generalizing names with
  | nil => cases names <;> simp [ruleNames, pure, Except.pure]
  | cons token rest ih =>
      rw [ruleNames_cons]
      cases found : ruleName? token with
      | none => cases names <;> simp [found]
      | some name =>
          cases names with
          | nil => cases ruleNames rest <;> simp [Except.map]
          | cons other names =>
              rw [List.map_cons, List.map_cons, List.cons.injEq, ← ih, found]
              cases ruleNames rest <;> simp [Except.map]

/-- The names of a list are the ones that its tokens select. -/
theorem mem_ruleNames {focus names : List Bytes} (named : ruleNames focus = .ok names) {name : Bytes}
    : name ∈ names ↔ ∃ token ∈ focus, ruleName? token = some name := by
  rw [← List.mem_map, ruleNames_ok_iff.mp named]
  exact ⟨List.mem_map_of_mem, fun member => by simpa using member⟩

/-- A list has names where all of its tokens are known. -/
theorem ruleNames_isOk_iff {focus : List Bytes}
    : (∃ names, ruleNames focus = .ok names) ↔ ∀ token ∈ focus, Known token := by
  constructor
  · rintro ⟨names, named⟩ token member
    have inside : ruleName? token ∈ names.map some :=
      ruleNames_ok_iff.mp named ▸ List.mem_map_of_mem member
    obtain ⟨name, -, found⟩ := List.mem_map.mp inside
    exact known_iff.mpr ⟨name, found.symm⟩
  · intro known
    cases named : ruleNames focus with
    | ok names => exact ⟨names, rfl⟩
    | error e =>
        obtain ⟨before, behind, rfl, -, unknown⟩ := ruleNames_error_iff.mp named
        exact absurd (known e.token (by simp)) unknown

theorem validate_error_iff {focus : List Bytes} {e : UnknownFocus}
    : validate focus = .error e ↔ ruleNames focus = .error e := by
  rw [validate]
  cases ruleNames focus <;> simp [Except.map]

theorem validate_ok_iff {focus : List Bytes}
    : validate focus = .ok () ↔ ∀ token ∈ focus, Known token := by
  rw [validate, ← ruleNames_isOk_iff]
  cases ruleNames focus <;> simp [Except.map]

/-- Lists of the same tokens: every token of one is spelled in the other one, in any order and any
number of times.
-/
def SameTokens (focus others : List Bytes) : Prop :=
  (∀ token ∈ focus, ∃ other ∈ others, Respelled token other)
  ∧ ∀ other ∈ others, ∃ token ∈ focus, Respelled token other

instance (focus others : List Bytes) : Decidable (SameTokens focus others) :=
  inferInstanceAs (Decidable (_ ∧ _))

/-- Lists of the same tokens have the same names. -/
theorem SameTokens.ruleNames {focus others names : List Bytes} (same : SameTokens focus others)
    (named : Focus.ruleNames focus = .ok names)
    : ∃ names', Focus.ruleNames others = .ok names' ∧ ∀ name, name ∈ names' ↔ name ∈ names := by
  have known : ∀ other ∈ others, Known other := by
    intro other member
    obtain ⟨token, member', respelled⟩ := same.2 other member
    have found := known_iff.mp (ruleNames_isOk_iff.mp ⟨names, named⟩ token member')
    exact known_iff.mpr (respelled.ruleName?_eq ▸ found)
  obtain ⟨names', named'⟩ := ruleNames_isOk_iff.mpr known
  refine ⟨names', named', fun name => ?_⟩
  rw [mem_ruleNames named, mem_ruleNames named']
  constructor
  · rintro ⟨other, member, found⟩
    obtain ⟨token, member', respelled⟩ := same.2 other member
    exact ⟨token, member', respelled.ruleName?_eq.trans found⟩
  · rintro ⟨token, member, found⟩
    obtain ⟨other, member', respelled⟩ := same.1 token member
    exact ⟨other, member', respelled.ruleName?_eq.symm.trans found⟩

end Focus

namespace Registry

variable {registry : Registry}

--------------------------------------------------------------------------------
-- Selected rules
--------------------------------------------------------------------------------

theorem select_of_ne_nil {focus : List Bytes} (some : focus ≠ [])
    : registry.select focus
      = (Focus.ruleNames focus).map fun wanted =>
          registry.rules.filter fun rule => wanted.contains rule.name := by
  rw [select, if_neg (by simpa using some)]
  cases Focus.ruleNames focus <;> rfl

/-- A selection fails where the check of its tokens does, which no tokens pass. -/
theorem select_error_iff {focus : List Bytes} {e : UnknownFocus}
    : registry.select focus = .error e ↔ focus ≠ [] ∧ Focus.validate focus = .error e := by
  by_cases none : focus = []
  · subst none
    simp [select]
  · rw [select_of_ne_nil none, Focus.validate_error_iff, and_iff_right none]
    cases Focus.ruleNames focus <;> simp [Except.map]

/-- Every registry has a selection for known tokens. -/
theorem select_of_known {focus : List Bytes} (known : ∀ token ∈ focus, Focus.Known token)
    : ∃ rules, registry.select focus = .ok rules := by
  cases selected : registry.select focus with
  | ok rules => exact ⟨rules, rfl⟩
  | error e =>
      have failed := (select_error_iff.mp selected).2
      rw [Focus.validate_ok_iff.mpr known] at failed
      cases failed

/-- A selection is the part of the registered rules that the tokens name, whatever their order,
number and spelling.
Witness: it filters the registered rules by the names alone.
-/
theorem select_spec {focus : List Bytes} {rules : List Rule} (some : focus ≠ [])
    (selected : registry.select focus = .ok rules)
    : rules.Sublist registry.rules ∧ (rules.map Rule.name).Nodup
      ∧ (∀ rule, rule ∈ rules
          ↔ rule ∈ registry.rules ∧ ∃ token ∈ focus, Focus.ruleName? token = .some rule.name)
      ∧ ∀ others, Focus.SameTokens focus others → registry.select others = .ok rules := by
  rw [select_of_ne_nil some] at selected
  cases named : Focus.ruleNames focus with
  | error e =>
      rw [named] at selected
      cases selected
  | ok names =>
      rw [named] at selected
      cases selected
      refine ⟨List.filter_sublist, ?_, fun rule => ?_, fun others same => ?_⟩
      · exact registry.nodup.sublist (List.filter_sublist.map Rule.name)
      · rw [List.mem_filter, List.contains_iff_mem, Focus.mem_ruleNames named]
      · obtain ⟨names', named', alike⟩ := same.ruleNames named
        have some' : others ≠ [] := by
          obtain ⟨token, member⟩ := List.exists_mem_of_ne_nil focus some
          obtain ⟨other, member', -⟩ := same.1 token member
          exact List.ne_nil_of_mem member'
        rw [select_of_ne_nil some', named']
        refine congrArg Except.ok (List.filter_congr fun rule _ => ?_)
        rw [Bool.eq_iff_iff, List.contains_iff_mem, List.contains_iff_mem, alike]

--------------------------------------------------------------------------------
-- Registrations
--------------------------------------------------------------------------------

/-- The registry after a rule is offered: one whose name is taken leaves it as it is. -/
def offer (registry : Registry) (rule : Rule) : Registry :=
  match registry.register rule with
  | .ok next => next
  | .error _ => registry

/-- The registry after rules are offered one after another. -/
def offerAll (registry : Registry) (rules : List Rule) : Registry := rules.foldl offer registry

theorem offerAll_append (rules : List Rule) (rule : Rule)
    : registry.offerAll (rules ++ [rule]) = (registry.offerAll rules).offer rule :=
  List.foldl_append

/-- A rule whose name is taken is refused by its name. -/
theorem register_taken {rule : Rule} (taken : rule.name ∈ registry.names)
    : registry.register rule = .error ⟨rule.name⟩ ∧ registry.offer rule = registry := by
  have refused : registry.register rule = .error ⟨rule.name⟩ := dif_pos taken
  exact ⟨refused, by rw [offer, refused]⟩

/-- A rule of a new name comes last. -/
theorem register_new {rule : Rule} (new : rule.name ∉ registry.names)
    : registry.register rule = .ok (registry.offer rule)
      ∧ (registry.offer rule).rules = registry.rules ++ [rule] := by
  rw [offer, register, dif_neg new]
  exact ⟨rfl, rfl⟩

/-- What a registry had stands before some of what was offered, and its names are all of theirs, by
induction on the offered rules.
-/
theorem offerAll_spec (rules : List Rule)
    : (∃ added, added.Sublist rules ∧ (registry.offerAll rules).rules = registry.rules ++ added)
      ∧ ∀ name, name ∈ (registry.offerAll rules).names
          ↔ name ∈ (registry.rules ++ rules).map Rule.name := by
  induction rules using List.reverseRecOn with
  | nil => exact ⟨⟨[], .slnil, (List.append_nil _).symm⟩, fun name => by simp [offerAll, names]⟩
  | append_singleton rules rule ih =>
      obtain ⟨⟨added, part, grown⟩, named⟩ := ih
      have offered (name : Bytes) : name ∈ (registry.rules ++ (rules ++ [rule])).map Rule.name
          ↔ name ∈ (registry.offerAll rules).names ∨ name = rule.name := by
        rw [named, ← List.append_assoc, List.map_append, List.mem_append, List.map_singleton,
          List.mem_singleton]
      rw [offerAll_append]
      by_cases taken : rule.name ∈ (registry.offerAll rules).names
      · rw [(register_taken taken).2]
        refine ⟨⟨added, part.trans (List.sublist_append_left _ _), grown⟩, fun name => ?_⟩
        rw [offered, or_iff_left_of_imp fun same => same ▸ taken]
      · have last := (register_new taken).2
        refine ⟨⟨added ++ [rule], part.append (.refl _), ?_⟩, fun name => ?_⟩
        · rw [last, grown, List.append_assoc]
        · rw [offered, names, last, List.map_append, List.mem_append, List.map_singleton,
            List.mem_singleton, ← names]

/-- Offering rules keeps the names apart and the rules in order, and the next rule is refused
exactly where its name was there before or was offered.
-/
theorem register_spec (before : List Rule) (rule : Rule)
    : (registry.offerAll before).names.Nodup
      ∧ (∃ added, added.Sublist before
          ∧ (registry.offerAll before).rules = registry.rules ++ added)
      ∧ if rule.name ∈ (registry.rules ++ before).map Rule.name then
          (registry.offerAll before).register rule = .error ⟨rule.name⟩
          ∧ registry.offerAll (before ++ [rule]) = registry.offerAll before
        else
          (registry.offerAll before).register rule = .ok (registry.offerAll (before ++ [rule]))
          ∧ (registry.offerAll (before ++ [rule])).rules
            = (registry.offerAll before).rules ++ [rule] := by
  obtain ⟨grown, named⟩ := registry.offerAll_spec before
  refine ⟨(registry.offerAll before).nodup, grown, ?_⟩
  rw [offerAll_append]
  split
  · rename_i taken
    exact register_taken ((named rule.name).mpr taken)
  · rename_i new
    exact register_new fun taken => new ((named rule.name).mp taken)

--------------------------------------------------------------------------------
-- Focus lists from a command line
--------------------------------------------------------------------------------

/-- Settings have no problem with accepted tokens, since each is a word. -/
theorem not_mem_problems {settings : Settings} {focus : List Bytes}
    (accepted : ∀ token ∈ focus, token ∈ Focus.tokens) (chosen : settings.focus = some focus)
    (token : Bytes)
    : .focusToken token ∉ settings.problems := by
  have words : settings.tokens.filter (fun token => !Settings.isWord token) = [] := by
    rw [Settings.tokens, chosen, List.filter_eq_nil_iff]
    intro other member
    have word := (Focus.tokens_spelling other (accepted other member)).2.2.2.2
    simp [word]
  rw [Settings.problems, words]
  simp only [List.map_nil, List.append_nil, List.mem_append, not_or]
  refine ⟨⟨⟨⟨⟨?_, ?_⟩, ?_⟩, ?_⟩, ?_⟩, ?_⟩ <;> split <;> simp

/-- From a flag to the rules of a run all checks agree. The selection of a list fails exactly where
its check does, at the first unknown token. Where it succeeds, it is the part of the registered
rules that the tokens name, in every order, number and spelling of the tokens. What a flag text
holds is accepted everywhere once it is valid, and is parsed from its tokens again. No registrations
make two rules of one name.
-/
theorem focus_consistent
    : (∀ (registry : Registry) (focus : List Bytes) (e : UnknownFocus),
        (registry.select focus = .error e ↔ focus ≠ [] ∧ Focus.validate focus = .error e)
        ∧ (Focus.validate focus = .error e ↔ Focus.FirstUnknown focus e.token))
      ∧ (∀ (registry : Registry) (focus : List Bytes) (rules : List Rule),
        focus ≠ [] → registry.select focus = .ok rules →
          rules.Sublist registry.rules ∧ (rules.map Rule.name).Nodup
          ∧ (∀ rule, rule ∈ rules
              ↔ rule ∈ registry.rules ∧ ∃ token ∈ focus, Focus.ruleName? token = some rule.name)
          ∧ ∀ others, Focus.SameTokens focus others → registry.select others = .ok rules)
      ∧ (∀ s : Bytes, Focus.validate (Focus.parse s) = .ok () →
          (∀ token ∈ Focus.parse s, token ∈ Focus.tokens)
          ∧ (∀ settings : Settings, settings.focus = some (Focus.parse s) →
              ∀ token, .focusToken token ∉ settings.problems)
          ∧ (∀ registry : Registry, ∃ rules, registry.select (Focus.parse s) = .ok rules)
          ∧ Focus.parse (Bytes.join [0x2c] (Focus.parse s)) = Focus.parse s)
      ∧ ∀ (registry : Registry) (before : List Rule) (rule : Rule),
          (registry.offerAll before).names.Nodup
          ∧ (∃ added, added.Sublist before
              ∧ (registry.offerAll before).rules = registry.rules ++ added)
          ∧ if rule.name ∈ (registry.rules ++ before).map Rule.name then
              (registry.offerAll before).register rule = .error ⟨rule.name⟩
              ∧ registry.offerAll (before ++ [rule]) = registry.offerAll before
            else
              (registry.offerAll before).register rule = .ok (registry.offerAll (before ++ [rule]))
              ∧ (registry.offerAll (before ++ [rule])).rules
                = (registry.offerAll before).rules ++ [rule] := by
  refine ⟨fun registry focus e => ?_, fun registry focus rules => select_spec, fun s valid => ?_,
    fun registry => registry.register_spec⟩
  · exact ⟨select_error_iff, Focus.validate_error_iff.trans Focus.ruleNames_error_iff⟩
  · have known := Focus.validate_ok_iff.mp valid
    have accepted : ∀ token ∈ Focus.parse s, token ∈ Focus.tokens := fun token member =>
      (Focus.known_iff_of_mem_parse member).mp (known token member)
    exact ⟨accepted, fun settings => not_mem_problems accepted, fun registry =>
      select_of_known known, Focus.parse_join accepted⟩

/-- A list written in mixed case, with a letter beyond ASCII whose upper case is one of ASCII. -/
theorem focus_consistent_mixed
    : Registry.builtIn.select ["Selects", "open "] = .ok [Rule.openClose, Rule.select]
      ∧ Registry.builtIn.select ["\nOPEN", "SELECTS", "open"] = .ok [Rule.openClose, Rule.select]
      ∧ Focus.parse " open,,ſelects" = ["OPEN", "SELECTS"]
      ∧ Focus.parse (Bytes.join [0x2c] (Focus.parse " open,,ſelects"))
        = Focus.parse " open,,ſelects" := by
  have selected : Registry.builtIn.select ["Selects", "open "] = .ok [Rule.openClose, Rule.select] := by
    rfl
  have same : Focus.SameTokens ["Selects", "open "] ["\nOPEN", "SELECTS", "open"] := by
    decide +kernel
  have valid : Focus.validate (Focus.parse " open,,ſelects") = .ok () := by decide +kernel
  obtain ⟨-, sublist, flag, -⟩ := focus_consistent
  exact ⟨selected, (sublist _ _ _ (by decide) selected).2.2.2 _ same, by decide +kernel,
    (flag _ valid).2.2.2⟩

end Registry

end FormMigrate
