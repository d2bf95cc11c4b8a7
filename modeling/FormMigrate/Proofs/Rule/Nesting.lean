import FormMigrate.Proofs.Literal.Nesting
import FormMigrate.Proofs.Rule.Replies

/-! Replacements are well nested where the arguments are: a builder writes arguments whole, printed
values, and templates whose brackets match.
-/

namespace FormMigrate

--------------------------------------------------------------------------------
-- Arguments
--------------------------------------------------------------------------------

namespace CallSite

variable {site : CallSite}

/-- An argument of a well-nested list is well nested. -/
theorem optional?_nested (h : WellNested site.inner) {i : Nat} {arg : Bytes}
    (found : site.optional? i = some arg)
    : WellNested arg := by
  unfold optional? at found
  split at found
  · cases found
  · rename_i whole at_i
    dsimp only at found
    split at found
    · cases found
    · cases found
      exact (Argument.split_nested h whole (List.mem_of_getElem? at_i)).trim

theorem orElse_nested (h : WellNested site.inner) (i : Nat) {default : Bytes}
    (fallback : WellNested default)
    : WellNested (site.orElse i default) := by
  unfold orElse
  cases found : site.optional? i with
  | none => exact fallback
  | some arg => exact optional?_nested h found

theorem attributes?_nested (h : WellNested site.inner) {i : Nat} {arg : Bytes}
    (found : site.attributes? i = some arg)
    : WellNested arg :=
  optional?_nested h (Option.filter_eq_some_iff.mp found).1

end CallSite

--------------------------------------------------------------------------------
-- Templates
--------------------------------------------------------------------------------

theorem WellNested.call {callee args : Bytes} (h : WellNested callee) (h' : WellNested args)
    : WellNested (callee ++ "(" ++ args ++ ")") := by
  have parentheses : WellNested ("(" ++ args ++ ")") :=
    .insert rfl (.of_scan rfl) h'
  simpa only [List.append_assoc] using h.append parentheses

theorem WellNested.comma {first second : Bytes} (h : WellNested first) (h' : WellNested second)
    : WellNested (first ++ ", " ++ second) :=
  (h.append (.of_scan rfl)).append h'

theorem link_nested {method : String} (named : (Bytes.ofString method).Neutral) {arg : Bytes}
    (h : WellNested arg)
    : WellNested (link method arg) :=
  .call (.append (.of_scan rfl) (.of_neutral named)) h

theorem linkFor_nested {method : String} (named : (Bytes.ofString method).Neutral)
    {arg : Option Bytes} (h : ∀ v, arg = some v → WellNested v)
    : WellNested (linkFor method arg) := by
  cases arg with
  | none => exact .nil
  | some v => exact link_nested named (h v rfl)

namespace Builder

theorem inputHead_nested {keyword name : Bytes} (plain : keyword.Neutral) (h : WellNested name)
    : WellNested (inputHead keyword name) := by
  unfold inputHead
  split
  · exact .insert rfl (.of_scan rfl) h
  · exact .call (.append (.of_scan rfl) (.of_neutral plain)) h

theorem collected_nested {expr : Bytes} (h : WellNested expr) : WellNested (collected expr) := by
  unfold collected
  exact .insert rfl (.of_scan rfl) h

theorem option_nested (selected : Bool) (key : Key) (label : Value)
    : WellNested (option selected key label) := by
  have call : WellNested ("html()->option(" ++ (label.code ++ ", " ++ key.code) ++ ")") :=
    .insert rfl (.of_scan rfl) (label.code_nested.comma key.code_nested)
  unfold option
  refine .append (by simpa only [List.append_assoc] using call) ?_
  split <;> exact .of_scan rfl

theorem options_nested (selected : Option Bytes) (entries : Entries)
    : WellNested (options selected entries) := by
  unfold options
  refine .insert rfl (.of_scan rfl) (.join (.of_scan rfl) ?_)
  intro part member
  obtain ⟨⟨key, label⟩, _, rfl⟩ := List.mem_map.mp member
  exact option_nested _ key label

end Builder

--------------------------------------------------------------------------------
-- Options of a form
--------------------------------------------------------------------------------

namespace FormOptions

/-- The target of a form is a quoted text, or a route with what is well nested as its arguments. -/
theorem actionOf_cases {entries : Entries} {action : Bytes} (found : actionOf entries = some action)
    : (∃ s, action = quote s)
      ∨ ∃ inner, WellNested inner ∧ action = "route(" ++ inner ++ ")" := by
  have address {name : String} (found : address? entries name = some action)
      : ∃ s, action = quote s := by
    unfold address? at found
    split at found
    · exact ⟨_, (Option.some.inj found).symm⟩
    · cases found
  unfold actionOf at found
  split at found
  · exact .inr ⟨_, quote_nested _, (Option.some.inj found).symm⟩
  · unfold routeWithParameters? at found
    split at found
    · rename_i name _
      dsimp only at found
      split at found
      · exact .inr ⟨_, quote_nested name, (Option.some.inj found).symm⟩
      · have call (parameters : Value)
            : Bytes.ofString "route(" ++ quote name ++ ", " ++ parameters.code ++ ")"
              = "route(" ++ (quote name ++ ", " ++ parameters.code) ++ ")" := by
          simp only [List.append_assoc]
        exact .inr ⟨_, (quote_nested name).comma (Value.code_nested _),
          (Option.some.inj found).symm.trans (call _)⟩
    · cases found
  · cases found
  · rcases Option.or_eq_some_iff.mp found with first | ⟨_, second⟩
    · exact .inl (address first)
    · exact .inl (address second)

/-- The target of a form is well nested. -/
theorem actionOf_nested {entries : Entries} {action : Bytes}
    (found : actionOf entries = some action)
    : WellNested action := by
  rcases actionOf_cases found with ⟨s, rfl⟩ | ⟨inner, nested, rfl⟩
  · exact quote_nested s
  · exact .insert rfl (.of_scan rfl) nested

theorem attributes_nested (form : FormOptions)
    : WellNested (Bytes.join ", "
        (form.attributes.map fun (name, v) => quote name ++ " => " ++ v.code)) := by
  refine .join (.of_scan rfl) fun part member => ?_
  obtain ⟨⟨name, v⟩, _, rfl⟩ := List.mem_map.mp member
  exact ((quote_nested name).append (.of_scan rfl)).append v.code_nested

theorem attributesCode_nested (form : FormOptions) : WellNested form.attributesCode :=
  .insert rfl (.of_scan rfl) form.attributes_nested

/-- The chain that opens a form is well nested if its head call would be without further
arguments.
-/
theorem openCall_nested (entries : Entries) {start : Bytes}
    (outside : QuoteState.outside.after start = .outside) (closed : WellNested (start ++ ")"))
    : WellNested ((ofEntries entries).openCall start) := by
  have action : WellNested ((ofEntries entries).action.getD "null") := by
    cases found : (ofEntries entries).action with
    | none => exact .of_scan rfl
    | some action => exact actionOf_nested found
  have call := WellNested.insert outside closed
    ((quote_nested (ofEntries entries).method).comma action)
  unfold openCall
  refine .append (.append (by simpa only [List.append_assoc] using call) ?_) (.of_scan rfl)
  split
  · exact .nil
  · exact link_nested (.of_all rfl) (attributesCode_nested _)

end FormOptions

--------------------------------------------------------------------------------
-- Replacements
--------------------------------------------------------------------------------

namespace Builder

variable {site : CallSite} {text : Bytes}

theorem valueLink_nested (nested : WellNested site.inner) {method : String}
    (named : (Bytes.ofString method).Neutral) (i : Nat)
    : WellNested (linkFor method (site.optional? i)) :=
  linkFor_nested named fun _ => CallSite.optional?_nested nested

theorem attributesLink_nested (nested : WellNested site.inner) (i : Nat)
    : WellNested (linkFor "attributes" (site.attributes? i)) :=
  linkFor_nested (.of_all rfl) fun _ => CallSite.attributes?_nested nested

theorem name_nested (nested : WellNested site.inner) : WellNested (site.orElse 0 "''") :=
  CallSite.orElse_nested nested 0 (.of_scan rfl)

theorem openForm_nested (nested : WellNested site.inner)
    (h : (openForm site).replacement = some text)
    : WellNested text := by
  simp only [openForm] at h
  split at h
  · cases h
    exact .of_scan rfl
  · split at h
    · split at h
      · split at h
        · cases h
          split
          · exact .of_scan rfl
          · exact FormOptions.openCall_nested _ rfl (.of_scan rfl)
        · cases h
      · cases h
    · split at h
      · rename_i target args
        cases h
        have target : WellNested target :=
          Argument.split_nested nested target (by
            rw [show Argument.split site.inner = [target] from args]
            exact List.mem_singleton_self target)
        exact .insert rfl (.of_scan rfl) target
      · cases h

theorem closeForm_nested (h : (closeForm site).replacement = some text) : WellNested text := by
  simp only [closeForm] at h
  split at h
  · cases h
    exact .of_scan rfl
  · cases h

theorem token_nested (h : (token site).replacement = some text) : WellNested text := by
  simp only [token] at h
  split at h
  · cases h
    exact .of_scan rfl
  · cases h

theorem label_nested (nested : WellNested site.inner)
    (h : (label site).replacement = some text)
    : WellNested text := by
  cases h
  have head : WellNested "html()->label()" := .of_scan rfl
  exact ((head.append (link_nested (.of_all rfl) (name_nested nested))).append
    (valueLink_nested nested (.of_all rfl) 1)).append (attributesLink_nested nested 2)

theorem button_nested (nested : WellNested site.inner)
    (type : WellNested ("'" ++ site.keyword ++ "'")) (h : (button site).replacement = some text)
    : WellNested text := by
  cases h
  have head : WellNested ("html()->button(" ++ site.orElse 0 "'Submit'" ++ ")") :=
    .insert rfl (.of_scan rfl) (CallSite.orElse_nested nested 0 (.of_scan rfl))
  exact (head.append (link_nested (.of_all rfl) type)).append (attributesLink_nested nested 1)

theorem toggle_nested {defaultValue : Bytes} (nested : WellNested site.inner)
    (plain : site.keyword.Neutral) (fallback : WellNested defaultValue)
    (h : (toggle defaultValue site).replacement = some text)
    : WellNested text := by
  cases h
  have checked : WellNested (site.orElse 2 "false") :=
    CallSite.orElse_nested nested 2 (.of_scan rfl)
  have callee : WellNested ("html()->" ++ site.keyword) :=
    .append (.of_scan rfl) (.of_neutral plain)
  have call := callee.call
    (((name_nested nested).comma checked).comma (CallSite.orElse_nested nested 1 fallback))
  exact .append (by simpa only [List.append_assoc] using call) (attributesLink_nested nested 3)

/-- A select field is well nested, with its options written out or mapped later. -/
theorem select_nested (nested : WellNested site.inner)
    (h : (select site).replacement = some text)
    : WellNested text := by
  have head : WellNested ("html()->select(" ++ site.orElse 0 "''" ++ ")") :=
    .insert rfl (.of_scan rfl) (name_nested nested)
  have expr : WellNested (site.orElse 1 "[]") := CallSite.orElse_nested nested 1 (.of_scan rfl)
  simp only [select] at h
  split at h
  · cases h
    exact (head.append (link_nested (.of_all rfl) (options_nested _ _))).append
      (attributesLink_nested nested 3)
  · cases h
    exact ((head.append (link_nested (.of_all rfl) (collected_nested expr))).append
      (valueLink_nested nested (.of_all rfl) 2)).append (attributesLink_nested nested 3)

/-- A form bound to a model is well nested.
Witness: the head call is open where the options go in, but no string is.
-/
theorem modelForm_nested (nested : WellNested site.inner)
    (h : (modelForm site).replacement = some text)
    : WellNested text := by
  have model : WellNested (site.orElse 0 "$model") :=
    CallSite.orElse_nested nested 0 (.of_scan rfl)
  have bare : WellNested ("html()->modelForm(" ++ site.orElse 0 "$model" ++ ")->open()") :=
    .insert rfl (.of_scan rfl) model
  simp only [modelForm] at h
  split at h
  · cases h
    exact bare
  · split at h
    · split at h
      · cases h
        split
        · exact bare
        · have start : WellNested (site.orElse 0 "$model" ++ ", ") := model.append (.of_scan rfl)
          have closed : WellNested ("html()->modelForm(" ++ (site.orElse 0 "$model" ++ ", ")
              ++ ")") :=
            .insert rfl (.of_scan rfl) start
          refine FormOptions.openCall_nested _ ?_ (by simpa only [List.append_assoc] using closed)
          rw [List.append_assoc, QuoteState.after_append]
          exact start.ends
      · cases h
    · cases h

end Builder

theorem Rule.textKeywords_neutral : ∀ keyword ∈ Rule.textKeywords, keyword.Neutral := by
  have all : Rule.textKeywords.all (fun keyword => keyword.all Byte.isNeutral) = true := rfl
  exact fun keyword known => .of_all (List.all_eq_true.mp all keyword known)

/-- A built-in pass replaces a call of well-nested arguments by a well-nested text.
Witness: one case per builder, along the text that it writes.
-/
theorem Rule.BuiltIn.nested {pass : Pass} (known : Rule.BuiltIn pass) {inner text : Bytes}
    (nested : WellNested inner)
    (h : (pass.build ⟨pass.keyword, inner⟩).replacement = some text)
    : WellNested text := by
  cases known with
  | openForm => exact Builder.openForm_nested nested h
  | closeForm => exact Builder.closeForm_nested h
  | @textInput keyword known =>
      cases h
      have head := Builder.inputHead_nested (Rule.textKeywords_neutral keyword known)
        (@Builder.name_nested ⟨keyword, inner⟩ nested)
      exact (head.append (Builder.valueLink_nested nested (.of_all rfl) 1)).append
        (Builder.attributesLink_nested nested 2)
  | @plainInput keyword known =>
      cases h
      have plain : ∀ keyword ∈ [Bytes.ofString "password", Bytes.ofString "file"],
          keyword.Neutral := by
        rw [List.forall_mem_cons, List.forall_mem_singleton]
        exact ⟨.of_all rfl, .of_all rfl⟩
      have head := Builder.inputHead_nested (plain keyword known)
        (@Builder.name_nested ⟨keyword, inner⟩ nested)
      exact head.append (Builder.attributesLink_nested nested 1)
  | hiddenInput =>
      cases h
      have plain : (Bytes.ofString "hidden").Neutral := .of_all rfl
      have head := Builder.inputHead_nested plain (@Builder.name_nested ⟨"hidden", inner⟩ nested)
      exact head.append (Builder.valueLink_nested nested (.of_all rfl) 1)
  | label => exact Builder.label_nested nested h
  | @button keyword known =>
      have type : ∀ keyword ∈ [Bytes.ofString "submit", Bytes.ofString "button"],
          WellNested ("'" ++ keyword ++ "'") := by
        rw [List.forall_mem_cons, List.forall_mem_singleton]
        exact ⟨.of_scan rfl, .of_scan rfl⟩
      exact Builder.button_nested nested (type keyword known) h
  | checkbox => exact Builder.toggle_nested nested (.of_all rfl) (.of_scan rfl) h
  | radio => exact Builder.toggle_nested nested (.of_all rfl) (.of_scan rfl) h
  | select => exact Builder.select_nested nested h
  | modelForm => exact Builder.modelForm_nested nested h
  | token => exact Builder.token_nested h

end FormMigrate
